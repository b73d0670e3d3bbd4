import Prewire.Proofs.Output.Growth
import Prewire.Proofs.Registration.WrittenValues

/-! What the writing of a registration does besides its code. A property of actions that one action after
another has when each of them has it holds of all that a registration is written with. Reports are one
such case: inner beans report what was detected of them, and nothing else is reported. -/
namespace Prewire.Registration

open Java Types Beans BeanValue Plan Output

/-- A property of actions that holds of plain results, of refused values, and of one action after another
when it holds of both. -/
structure Composes (C : ∀ {α : Type}, Writing α → Prop) : Prop where
  plain : ∀ {α : Type} (a : α), C (pure a : Writing α)
  refused : ∀ {α : Type} (part : Unwritable), C (throw (.unsupportedValue part) : Writing α)
  bind : ∀ {α β : Type} {action : Writing α} {next : α → Writing β}, C action →
    (∀ a, C (next a)) → C (action >>= next)

section
variable {α β : Type} {C : ∀ {α : Type}, Writing α → Prop} {f : BeanFactory} {beanName : String}

/-- One action after another runs on where the first succeeds, and ends as the first where it fails. -/
theorem run_bind_cases (action : Writing α) (next : α → Writing β) (p : Progress) :
    (∃ a q, action.run.run p = (.ok a, q) ∧ (action >>= next).run.run p = (next a).run.run q) ∨
    ∃ failure q, action.run.run p = (.error failure, q) ∧
      (action >>= next).run.run p = (.error failure, q) := by
  simp only [ExceptT.run_bind, StateT.run_bind]
  cases result : action.run.run p with
  | mk outcome q =>
    cases outcome with
    | ok a => exact .inl ⟨a, q, rfl, rfl⟩
    | error failure => exact .inr ⟨failure, q, rfl, rfl⟩

/-- Where two actions succeed, each of them does. -/
theorem run_bind_ok {action : Writing α} {next : α → Writing β} {p r : Progress} {b : β}
    (ran : (action >>= next).run.run p = (.ok b, r)) :
    ∃ a q, action.run.run p = (.ok a, q) ∧ (next a).run.run q = (.ok b, r) := by
  rcases run_bind_cases action next p with ⟨a, q, first, later⟩ | ⟨failure, q, -, stopped⟩
  · exact ⟨a, q, first, later ▸ ran⟩
  · cases stopped.symm.trans ran

namespace Composes

theorem mapM (composes : Composes C) {action : α → Writing β} {list : List α}
    (each : ∀ a ∈ list, C (action a)) : C (list.mapM action) := by
  induction list with
  | nil => exact composes.plain _
  | cons a rest ih =>
    rw [List.forall_mem_cons] at each
    rw [List.mapM_cons]
    exact composes.bind each.1 fun b => composes.bind (ih each.2) fun bs => composes.plain _

theorem value (composes : Composes C) {inner : BeanDefinition → Writing Expression}
    (each : ∀ d, C (inner d)) (v : BeanValue) (type : Option JavaType) : C (valueExpression inner v type) := by
  induction v using elements_induction generalizing type with
  | collection v elements known ih =>
    rw [valueExpression_of_elements known]
    exact composes.bind (composes.mapM fun e member => ih e member _) fun _ => composes.plain _
  | single v single =>
    cases v with
    | array | list | set => cases single
    | inner d => rw [valueExpression]; exact each d
    | opaqueInstance => rw [valueExpression]; exact composes.refused _
    | _ => rw [valueExpression]; exact composes.plain _

theorem customizers (composes : Composes C) {inner : BeanDefinition → Writing Expression}
    (each : ∀ d, C (inner d)) (target : Expression) (d : BeanDefinition)
    (properties : List PropertySetting) : C (Registration.customizers inner target d properties) := by
  rw [Registration.customizers]
  refine composes.bind (composes.mapM fun p _ => ?_) fun _ => composes.plain _
  exact composes.bind (composes.value each p.value p.type) fun _ => composes.plain _

/-- Whether a property passes from what an inner bean goes on with to the whole, its plan included. -/
def Plans (C : ∀ {α : Type}, Writing α → Prop) (f : BeanFactory) (beanName : String) : Prop :=
  ∀ (d : BeanDefinition) (next : BeanPlan → Creator → Call → Writing Expression),
    (∀ plan creator supply, C (next plan creator supply)) →
    C (do
      let plan ← innerPlan f d
      let creator ← requireCreator beanName plan
      let supply ← supplierCall f d plan creator
      next plan creator supply)

/-- A property passes on where it holds of all results and of what is reported. -/
theorem plans (composes : Composes C)
    (lifts : ∀ {α : Type} (result : Except Failure α), C (liftM result : Writing α))
    (reports : ∀ d, C (report (detectionNotices d (detect f d)))) : Plans C f beanName := by
  intro d next rest
  have planned : C (innerPlan f d) := by
    rw [innerPlan]
    refine composes.bind (reports d) fun _ => ?_
    split
    · exact lifts (.error _)
    · exact composes.refused _
    · exact composes.plain _
  exact composes.bind planned fun plan => composes.bind (lifts _) fun creator =>
    composes.bind (lifts _) fun supply => rest plan creator supply

theorem innerChain (composes : Composes C) (plans : Plans C f beanName)
    (records : ∀ injections, C (recordInjections injections)) :
    ∀ depth level d, C (Registration.innerChain f beanName depth level d)
  | 0, _, d => by rw [Registration.innerChain, refuseInner]; exact composes.refused _
  | depth + 1, level, d => by
    rw [Registration.innerChain]
    refine plans d _ fun plan creator supply => composes.bind (records plan.injections) fun _ => ?_
    refine composes.bind (composes.customizers (fun inner => ?_) _ d plan.properties) fun _ =>
      composes.plain _
    exact composes.innerChain plans records depth (level + 1) inner

theorem registration (composes : Composes C) (plans : Plans C f beanName)
    (records : ∀ injections, C (recordInjections injections)) (d : BeanDefinition) (plan : BeanPlan)
    (creator : Creator) (supply : Call) :
    C (Registration.registration f beanName d plan creator supply) := by
  rw [Registration.registration]
  refine composes.bind (records plan.injections) fun _ => ?_
  refine composes.bind (composes.customizers (fun inner => ?_) _ d plan.properties) fun _ =>
    composes.plain _
  exact composes.innerChain plans records _ 1 inner

end Composes

def Keeps (P : Progress → Prop) {α : Type} (action : Writing α) : Prop :=
  ∀ p, P p → P (action.run.run p).2

variable {P : Progress → Prop}

theorem composes_keeps : Composes (Keeps P) where
  plain _ _ kept := kept
  refused _ _ kept := kept
  bind {_ _ action next} first second p kept := by
    have between := first p kept
    rcases run_bind_cases action next p with ⟨a, q, ran, later⟩ | ⟨failure, q, ran, stopped⟩
    · rw [ran] at between
      rw [later]
      exact second a q between
    · rw [ran] at between
      rwa [stopped]

theorem keeps_lift (result : Except Failure α) : Keeps P (liftM result : Writing α) := by
  intro p kept
  cases result <;> exact kept

end

theorem registration?_detectionNotices (d : BeanDefinition)
    (detected : Except Failure (Option Executable)) :
    (detectionNotices d detected).filterMap Notice.registration? = [] := by
  rw [detectionNotices.eq_def]
  split
  · rfl
  · rfl
  · split <;> rfl

/-- No registration is reported by the writing of one: it is only reported once it is in place. -/
theorem registrations_writeRegistration (f : BeanFactory) (beanName : String) (d : BeanDefinition)
    (plan : BeanPlan) :
    (writeRegistration f beanName d plan).progress.notices.filterMap Notice.registration? = [] := by
  have silent (creator : Creator) (supply : Call) :
      Keeps (fun p => p.notices.filterMap Notice.registration? = [])
        (registration f beanName d plan creator supply) := by
    refine composes_keeps.registration (composes_keeps.plans keeps_lift fun d p silent => ?_)
      (fun _ _ silent => silent) d plan creator supply
    show (p.notices ++ detectionNotices d (detect f d)).filterMap _ = _
    rw [List.filterMap_append, silent, registration?_detectionNotices, List.append_nil]
  rw [writeRegistration]
  split
  · rfl
  · next creator supply _ =>
    have kept := silent creator supply {} rfl
    split
    · next written => simpa [written] using kept
    · next written => simpa [written] using kept

end Prewire.Registration
