import Prewire.Proofs.Output.Reflection
import Prewire.Proofs.Registration.Configured

/-! The members that a registration asks reflection for. These are the private members that it injects,
into the bean and into each inner bean that is written with it, however deep that is nested in
properties. -/
namespace Prewire.Registration

open Java Types Beans Plan Output BeanValue

def injectionMentions (d : Dependency) : List Mention :=
  match d.member with
  | .parameter .. => []
  | .field field => if field.visibility.isPrivate then fieldMentions field else []
  | .method m => if m.visibility.isPrivate then executableMentions m else []

/-- The definitions that are written with one: itself, and the inner beans in properties of one that is
written with it. -/
inductive WrittenWith (f : BeanFactory) : BeanDefinition → BeanDefinition → Prop
  | self (d : BeanDefinition) : WrittenWith f d d
  | inner {d inner nested : BeanDefinition} {plan : BeanPlan} {p : PropertySetting}
    (planned : BeanPlan.ofDefinition f d = .ok (some plan)) (listed : p ∈ plan.properties)
    (within : .inner inner ∈ p.value.parts) (rest : WrittenWith f inner nested) :
    WrittenWith f d nested

def InjectsPrivately (f : BeanFactory) (d : BeanDefinition) (x : Mention) : Prop :=
  ∃ nested plan, WrittenWith f d nested ∧ BeanPlan.ofDefinition f nested = .ok (some plan) ∧
    ∃ injected ∈ plan.injections, x ∈ injectionMentions injected

/-- Where an action succeeds, it has added exactly some mentions to the reflection. -/
def Records {α : Type} (action : Writing α) (added : Mention → Prop) : Prop :=
  ∀ p a q, action.run.run p = (.ok a, q) → Adds p.reflection.mentions added q.reflection.mentions

section
variable {α β : Type} {added more : Mention → Prop} {f : BeanFactory} {d : BeanDefinition}
variable {plan : BeanPlan} {x : Mention}

theorem injectsPrivately_iff (planned : BeanPlan.ofDefinition f d = .ok (some plan)) :
    InjectsPrivately f d x ↔ (∃ injected ∈ plan.injections, x ∈ injectionMentions injected) ∨
      ∃ p ∈ plan.properties, ∃ inner, .inner inner ∈ p.value.parts ∧ InjectsPrivately f inner x := by
  constructor
  · rintro ⟨nested, found, written, known, injected⟩
    cases written with
    | self =>
      obtain rfl := eq_of_planned planned known
      exact .inl injected
    | inner again listed within rest =>
      obtain rfl := eq_of_planned planned again
      exact .inr ⟨_, listed, _, within, nested, found, rest, known, injected⟩
  · rintro (injected | ⟨p, listed, inner, within, nested, found, rest, known, injected⟩)
    · exact ⟨d, plan, .self d, planned, injected⟩
    · exact ⟨nested, found, .inner planned listed within rest, known, injected⟩

theorem adds_recordInjection (r : Reflection) (d : Dependency) :
    Adds r.mentions (· ∈ injectionMentions d) (recordInjection r d).mentions := by
  have unchanged := Adds.nothing r.mentions
  cases member : d.member with
  | parameter => simpa [recordInjection, injectionMentions, member] using unchanged
  | field field =>
    by_cases hidden : field.visibility.isPrivate
    · simpa [recordInjection, injectionMentions, member, hidden] using r.adds_addField field
    · simpa [recordInjection, injectionMentions, member, hidden] using unchanged
  | method m =>
    by_cases hidden : m.visibility.isPrivate
    · simpa [recordInjection, injectionMentions, member, hidden] using r.adds_addExecutable m
    · simpa [recordInjection, injectionMentions, member, hidden] using unchanged

theorem records_recordInjections (injections : List Dependency) :
    Records (recordInjections injections)
      fun x => ∃ injected ∈ injections, x ∈ injectionMentions injected := by
  intro p _ q ran
  obtain ⟨-, rfl⟩ := Prod.mk.inj ran
  exact adds_foldl adds_recordInjection injections p.reflection

theorem Records.congr {action : Writing α} (records : Records action added)
    (same : ∀ x, added x ↔ more x) : Records action more :=
  fun p a q ran => (records p a q ran).congr same

theorem records_pure (a : α) : Records (pure a) fun _ => False := by
  intro p _ q ran
  obtain ⟨-, rfl⟩ := Prod.mk.inj ran
  exact .nothing _

theorem records_throw (failure : Failure) : Records (throw failure : Writing α) added := by
  intro p a q ran
  cases (Prod.mk.inj ran).1

theorem records_lift (result : Except Failure α) : Records (liftM result) fun _ => False := by
  cases result with
  | error failure => exact records_throw failure
  | ok a => exact records_pure a

theorem records_report (notices : List Notice) : Records (report notices) fun _ => False := by
  intro p _ q ran
  obtain ⟨-, rfl⟩ := Prod.mk.inj ran
  exact .nothing _

theorem Records.bind {action : Writing α} {next : α → Writing β} (first : Records action added)
    (second : ∀ a, Records (next a) more) : Records (action >>= next) fun x => added x ∨ more x := by
  intro p b r ran
  obtain ⟨a, q, ran, rest⟩ := run_bind_ok ran
  exact (first p a q ran).trans (second a q b r rest)

/-- What follows may only put the result together. -/
theorem Records.map {action : Writing α} (records : Records action added) (g : α → β) :
    Records (action >>= fun a => pure (g a)) added :=
  (records.bind fun a => records_pure (g a)).congr (by simp)

theorem records_mapM {action : α → Writing β} {added : α → Mention → Prop} {list : List α}
    (each : ∀ a ∈ list, Records (action a) (added a)) :
    Records (list.mapM action) fun x => ∃ a ∈ list, added a x := by
  induction list with
  | nil => exact (records_pure _).congr (by simp)
  | cons a rest ih =>
    rw [List.forall_mem_cons] at each
    rw [List.mapM_cons]
    exact (each.1.bind fun _ => (ih each.2).map _).congr (by simp)

end

section
variable {inner : BeanDefinition → Writing Expression} {recorded : BeanDefinition → Mention → Prop}

/-- Writing a value records what writing the inner beans among its parts does. -/
theorem records_value (each : ∀ d, Records (inner d) (recorded d)) (v : BeanValue) (type : Option JavaType) :
    Records (valueExpression inner v type) fun x => ∃ d, .inner d ∈ v.parts ∧ recorded d x := by
  induction v using elements_induction generalizing type with
  | collection v elements known ih =>
    rw [valueExpression_of_elements known]
    refine ((records_mapM fun e member => ih e member _).map _).congr fun x => ?_
    have other (d : BeanDefinition) : ¬ .inner d = v := by rintro rfl; cases known
    simp only [parts_of_elements known, List.mem_cons, mem_partsOfAll, other, false_or]
    tauto
  | single v single =>
    cases v with
    | array | list | set => cases single
    | inner d =>
      rw [valueExpression]
      exact (each d).congr (by simp [parts])
    | opaqueInstance => rw [valueExpression]; exact records_throw _
    | _ =>
      rw [valueExpression]
      exact (records_pure _).congr (by simp [parts])

theorem records_customizers (each : ∀ d, Records (inner d) (recorded d)) (target : Expression)
    (d : BeanDefinition) (properties : List PropertySetting) :
    Records (customizers inner target d properties)
      fun x => ∃ p ∈ properties, ∃ d, .inner d ∈ p.value.parts ∧ recorded d x := by
  rw [customizers]
  exact (records_mapM fun p _ => (records_value each p.value p.type).map _).map _

end

section
variable {f : BeanFactory} {beanName : String}

theorem records_innerPlan (f : BeanFactory) (d : BeanDefinition) :
    Records (innerPlan f d) fun _ => False := by
  rw [innerPlan]
  refine ((records_report _).bind fun _ => (?_ : Records _ fun _ => False)).congr (by simp)
  split
  · exact records_throw _
  · exact records_throw _
  · exact records_pure _

/-- An inner bean that is written records what is injected by reflection into it and into the inner
beans that are written with it. -/
theorem records_innerChain (depth level : Nat) (d : BeanDefinition) :
    Records (innerChain f beanName depth level d) (InjectsPrivately f d) := by
  induction depth generalizing level d with
  | zero =>
    rw [innerChain, refuseInner]
    exact records_throw _
  | succ depth ih =>
    intro p e q ran
    rw [innerChain] at ran
    obtain ⟨plan, p₁, planned, ran⟩ := run_bind_ok ran
    obtain ⟨creator, p₂, required, ran⟩ := run_bind_ok ran
    obtain ⟨supply, p₃, supplied, ran⟩ := run_bind_ok ran
    obtain ⟨_, p₄, injected, ran⟩ := run_bind_ok ran
    have before := (records_innerPlan f d p plan p₁ planned).trans
      ((records_lift _ p₁ creator p₂ required).trans (records_lift _ p₂ supply p₃ supplied))
    have injections := records_recordInjections plan.injections p₃ _ p₄ injected
    have properties := (records_customizers (ih (level + 1)) _ d plan.properties).map _ p₄ e q ran
    refine (before.trans (injections.trans properties)).congr fun x => ?_
    rw [injectsPrivately_iff (innerPlan_ok ⟨p, p₁, planned⟩)]
    simp

theorem records_registration {d : BeanDefinition} {plan : BeanPlan}
    (planned : BeanPlan.ofDefinition f d = .ok (some plan)) (creator : Creator) (supply : Call) :
    Records (registration f beanName d plan creator supply) (InjectsPrivately f d) := by
  have inner (nested : BeanDefinition) :
      Records (innerChain f beanName (planDepth plan) 1 nested) (InjectsPrivately f nested) :=
    records_innerChain _ _ nested
  rw [registration]
  refine ((records_recordInjections plan.injections).bind fun _ =>
    (records_customizers inner _ d plan.properties).map _).congr fun x => ?_
  rw [injectsPrivately_iff planned]

/-- A registration that succeeds asks reflection for exactly what it injects by reflection. -/
theorem adds_writeRegistration {d : BeanDefinition} {plan : BeanPlan}
    (planned : BeanPlan.ofDefinition f d = .ok (some plan))
    (complete : (writeRegistration f beanName d plan).outcome = .ok ()) :
    Adds [] (InjectsPrivately f d)
      (writeRegistration f beanName d plan).progress.reflection.mentions := by
  rw [writeRegistration] at complete ⊢
  split at complete
  · simp at complete
  next creator supply _ =>
  split at complete
  · next statement progress ran =>
    exact records_registration planned creator supply {} statement progress ran
  · simp at complete

end
end Prewire.Registration
