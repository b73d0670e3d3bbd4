import Prewire.Pass.Source
import Prewire.Proofs.Pass.Failing
import Prewire.Proofs.Templates.Pass

/-! Why a pass fails. No template is at fault, whatever text the names and values of a container hold, and
no bean reaches its registration without something that creates it. -/
namespace Prewire

open Java Types Beans Plan Output Registration Pass

/-- Failures that are no answer to what a container holds: a template does not fit its arguments, or a
registration is asked for where nothing creates the bean. -/
def Failure.IsInternal : Failure → Prop
  | .template _ | .missingInstanceCreator _ => True
  | _ => False

def IsOrderly {α : Type} : Except Failure α → Prop
  | .ok _ => True
  | .error failure => ¬ failure.IsInternal

theorem IsOrderly.map {α β : Type} {result : Except Failure α} (orderly : IsOrderly result)
    (g : α → β) : IsOrderly (result.map g) := by
  cases result <;> exact orderly

namespace Plan

theorem orderly_selectAmong (r : Registry) (owner : ClassName) (arguments : List (Option JavaType))
    (candidates : List Executable) (tiers : List Tier) :
    IsOrderly (selectAmong r owner arguments candidates tiers) := by
  fun_induction selectAmong r owner arguments candidates tiers with
  | case1 => exact trivial
  | case2 _ _ _ ih => exact ih
  | case3 => exact trivial
  | case4 => exact id

theorem orderly_detectFactoryMethod (f : BeanFactory) (d : BeanDefinition) (name : String) :
    IsOrderly (detectFactoryMethod f d name) := by
  rw [detectFactoryMethod]
  split
  · exact id
  split
  · exact trivial
  · exact trivial
  · exact orderly_selectAmong ..

theorem orderly_detectFactoryBeanConstructor (r : Registry) (d : BeanDefinition)
    (type : TypeDeclaration) : IsOrderly (detectFactoryBeanConstructor r d type) := by
  rw [detectFactoryBeanConstructor]
  split
  · split
    · exact trivial
    · exact id
  · exact trivial

theorem orderly_detectConstructor (f : BeanFactory) (d : BeanDefinition) (type : TypeDeclaration) :
    IsOrderly (detectConstructor f d type) := by
  rw [detectConstructor]
  split
  · exact trivial
  split
  · exact trivial
  split
  · exact trivial
  · exact orderly_selectAmong ..

theorem orderly_detect (f : BeanFactory) (d : BeanDefinition) : IsOrderly (detect f d) := by
  rw [detect.eq_def]
  split
  · exact orderly_detectFactoryMethod ..
  · exact trivial
  split
  · exact id
  split
  · exact orderly_detectFactoryBeanConstructor ..
  · exact orderly_detectConstructor ..

theorem orderly_ofDefinition (f : BeanFactory) (d : BeanDefinition) :
    IsOrderly (BeanPlan.ofDefinition f d) :=
  (orderly_detect f d).map _

/-- A plan that a definition is given has a creator. -/
theorem exists_creator {f : BeanFactory} {d : BeanDefinition} {plan : BeanPlan}
    (planned : BeanPlan.ofDefinition f d = .ok (some plan)) :
    ∃ creator, plan.creator = some creator := by
  obtain ⟨detected, _, same⟩ := eq_ok_of_map planned
  obtain ⟨e, _, rfl⟩ := Option.map_eq_some_iff.mp same
  exact ⟨_, rfl⟩

end Plan

namespace Registration

def Orderly {α : Type} (action : Writing α) : Prop := ∀ p, IsOrderly (action.run.run p).1

theorem composes_orderly : Composes Orderly where
  plain _ _ := trivial
  refused _ _ := id
  bind {_ _ action next} first second p := by
    have between := first p
    rcases run_bind_cases action next p with ⟨a, q, -, later⟩ | ⟨failure, q, ran, stopped⟩
    · rw [later]
      exact second a q
    · rw [ran] at between
      rwa [stopped]

theorem plans_orderly (f : BeanFactory) (beanName : String) : Composes.Plans Orderly f beanName := by
  intro d next rest
  rw [innerPlan, bind_assoc]
  refine composes_orderly.bind (fun _ => trivial) fun _ => ?_
  have orderly := orderly_ofDefinition f d
  cases planned : BeanPlan.ofDefinition f d with
  | error failure =>
    rw [planned] at orderly
    exact fun _ => orderly
  | ok found =>
    cases found with
    | none => exact fun _ => id
    | some plan =>
      obtain ⟨creator, created⟩ := exists_creator planned
      obtain ⟨supply, supplied⟩ := supplierCall_total f d plan creator
      simp only [pure_bind, requireCreator, created, supplied, Templates.lift_ok]
      exact rest plan creator supply

theorem orderly_writeRegistration (f : BeanFactory) (beanName : String) {d : BeanDefinition}
    {plan : BeanPlan} (planned : BeanPlan.ofDefinition f d = .ok (some plan)) :
    IsOrderly (writeRegistration f beanName d plan).outcome := by
  obtain ⟨creator, created⟩ := exists_creator planned
  obtain ⟨supply, supplied⟩ := supplierCall_total f d plan creator
  have orderly : Orderly (registration f beanName d plan creator supply) :=
    composes_orderly.registration (plans_orderly f beanName) (fun _ _ => trivial) d plan creator supply
  have started := orderly {}
  simp only [writeRegistration, requireCreator, created, supplied, bind, Except.bind, pure, Except.pure]
  cases result : (registration f beanName d plan creator supply).run.run {} with
  | mk outcome progress =>
    rw [result] at started
    cases outcome <;> exact started

theorem orderly_hostPackage (r : Registry) (beanName : String) (plan : BeanPlan) :
    IsOrderly (hostPackage r beanName plan) := by
  rw [hostPackage]
  split
  · trivial
  · trivial
  · exact id

theorem orderly_registerInPackage {f : BeanFactory} {beanName : String} {d : BeanDefinition}
    {plan : BeanPlan} (written : IsOrderly (writeRegistration f beanName d plan).outcome)
    (package : String) (t : Target) : IsOrderly (registerInPackage f beanName d plan package t).1 := by
  simp only [registerInPackage]
  split
  · next failed => rwa [failed] at written
  · trivial

theorem orderly_register (f : BeanFactory) (beanName : String) {d : BeanDefinition} {plan : BeanPlan}
    (planned : BeanPlan.ofDefinition f d = .ok (some plan)) (t : Target) :
    IsOrderly (register f beanName d plan t).1 := by
  have written := orderly_writeRegistration f beanName planned
  cases result : register f beanName d plan t with
  | mk outcome after =>
    cases outcome with
    | ok => trivial
    | error failure =>
      rcases register_error_cases result with
        ⟨refused, -⟩ | ⟨host, -, ⟨-, failed⟩ | ⟨package, -, failed⟩⟩
      · have hosted := orderly_hostPackage f.registry beanName plan
        rwa [refused] at hosted
      · have stopped : (writeRegistration f beanName d plan).outcome = .error failure :=
          congrArg Prod.fst failed
        rwa [stopped] at written
      · have stopped := orderly_registerInPackage written package t
        rwa [failed] at stopped

end Registration

namespace Pass

theorem orderly_writeOrSkip (o : Options) (f : BeanFactory) (beanName : String) (d : BeanDefinition)
    (t : Target) : IsOrderly (writeOrSkip o noCustoms f beanName d t).1 := by
  rw [writeOrSkip]
  split
  · trivial
  split
  · trivial
  simp only [noCustoms, writePlanned, planBean]
  have orderly := orderly_ofDefinition f d
  cases planned : BeanPlan.ofDefinition f d with
  | error failure => rwa [planned] at orderly
  | ok found =>
    cases found with
    | none => trivial
    | some plan => exact (orderly_register f beanName planned _).map _

theorem orderly_writeBeans (o : Options) (f : BeanFactory) (definitions : List (String × BeanDefinition))
    (t : Target) : IsOrderly (writeBeans o noCustoms f definitions t).1 := by
  induction definitions generalizing t with
  | nil => trivial
  | cons named rest ih =>
    obtain ⟨beanName, d⟩ := named
    have first := orderly_writeOrSkip o f beanName d t
    rw [writeBeans, writeBean]
    cases result : writeOrSkip o noCustoms f beanName d t with
    | mk outcome between =>
      rw [result] at first
      cases outcome with
      | error failure => exact first
      | ok outcome => cases outcome <;> exact (ih _).map _

theorem orderly_writeListeners (f : BeanFactory) (t : Target) : IsOrderly (writeListeners f t).1 := by
  rw [writeListeners, routeListeners]
  split
  · trivial
  split
  · trivial
  · trivial
  · exact id

theorem orderly_run (o : Options) (f : BeanFactory) : IsOrderly (run o noCustoms f).1 := by
  have beans := orderly_writeBeans o f f.definitions (start o)
  rw [run]
  split
  · next failed => rwa [failed] at beans
  · next count t complete =>
    have listeners := orderly_writeListeners f t
    split
    · next failed => rwa [failed] at listeners
    · trivial

/-- A pass that writes everything from its templates does what a pass does. None of these templates is at
fault, whatever text names and values hold, and no registration is asked for where nothing creates the
bean. -/
theorem run_templates_orderly (o : Options) (f : BeanFactory) :
    Templates.run o f = run o noCustoms f ∧
    (∀ fault, (Templates.run o f).1 ≠ .error (.template fault)) ∧
    ∀ beanName, generate o noCustoms f ≠ .error (.missingInstanceCreator beanName) := by
  have same := Templates.run_eq o f
  refine ⟨same, fun fault failed => ?_, fun beanName failed => ?_⟩
  · have orderly := orderly_run o f
    rw [← same, failed] at orderly
    exact orderly trivial
  · have orderly : IsOrderly (generate o noCustoms f) := (orderly_run o f).map _
    rw [failed] at orderly
    exact orderly trivial

end Pass
end Prewire
