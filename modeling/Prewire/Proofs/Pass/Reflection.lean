import Prewire.Proofs.Pass.Trace
import Prewire.Proofs.Registration.Recording

/-! What a pass that succeeds asks reflection for: private members that are injected, configuration
classes and methods that listen, and nothing else. -/
namespace Prewire.Pass

open Java Types Beans Plan Output Registration Target

/-- What a bean that is written asks reflection for: what is injected privately into it and into inner
beans that are written with it, and its class if that is for configuration. -/
def BeanMentions (f : BeanFactory) (d : BeanDefinition) (x : Mention) : Prop :=
  InjectsPrivately f d x ∨ ∃ plan, BeanPlan.ofDefinition f d = .ok (some plan) ∧
    (f.registry.get? plan.userClass).any (·.isAnnotated Known.configuration) = true ∧
    x = .type plan.userClass

section
variable {o : Options} {f : BeanFactory} {t after : Target}

def AddsMentions (o : Options) (f : BeanFactory) (done : List (String × BeanDefinition)) (t : Target) :
    Prop :=
  Adds [] (fun x => ∃ bean ∈ done, ¬ Skips o f bean.2 ∧ BeanMentions f bean.2 x) t.reflection.mentions

theorem Wrote.mentions {beanName : String} {d : BeanDefinition}
    (wrote : Wrote o f beanName d t after) :
    Adds t.reflection.mentions (fun x => ¬ Skips o f d ∧ BeanMentions f d x)
      after.reflection.mentions := by
  cases wrote with
  | skipped ignored _ unchanged =>
    rw [unchanged]
    exact (Adds.nothing _).congr (by simp [ignored])
  | @registered plan block kept planned complete _ _ recorded =>
    have recorded' := adds_writeRegistration planned complete
    have merged : Adds t.reflection.mentions (InjectsPrivately f d)
        (t.reflection.merge (writeRegistration f beanName d plan).progress.reflection).mentions :=
      (t.reflection.adds_merge _).congr fun x => (recorded'.mem x).trans (by simp)
    have planned' (other : BeanPlan) : BeanPlan.ofDefinition f d = .ok (some other) ↔ plan = other := by
      rw [planned]
      simp
    rw [recorded]
    split
    · next annotated =>
      refine (merged.trans (Reflection.adds_addType _ plan.userClass)).congr fun x => ?_
      simp [BeanMentions, kept, planned', annotated]
    · next plain =>
      refine merged.congr fun x => ?_
      simp [BeanMentions, kept, planned', plain]

theorem AddsMentions.step {done : List (String × BeanDefinition)} {beanName : String}
    {d : BeanDefinition} (adds : AddsMentions o f done t) (wrote : Wrote o f beanName d t after) :
    AddsMentions o f (done ++ [(beanName, d)]) after :=
  (adds.trans wrote.mentions).congr (by simp [or_and_right, exists_or])

theorem addsMentions_writeBeans {definitions : List (String × BeanDefinition)} {count : Nat}
    (written : writeBeans o noCustoms f definitions (start o) = (.ok count, after)) :
    AddsMentions o f definitions after := by
  have first : AddsMentions o f [] (start o) := (Adds.nothing []).congr (by simp)
  exact writeBeans_induction (AddsMentions o f) (fun adds writes => adds.step writes.wrote) first
    written

/-- After a pass that succeeds the reflection has one entry for a type and repeats no member. It
mentions exactly the private members that are injected into the beans that are not skipped and into
their inner beans, the configuration classes of such beans, and the methods that listen. -/
theorem reflection_of_run (complete : run o noCustoms f = (.ok (), t)) :
    (t.reflection.entries.map ReflectionEntry.type).Nodup ∧
    (∀ entry ∈ t.reflection.entries, entry.methods.Nodup ∧ entry.fields.Nodup) ∧
    ∀ x, x ∈ t.reflection.mentions ↔
      (∃ beanName d, (beanName, d) ∈ f.definitions ∧ ¬ Skips o f d ∧ InjectsPrivately f d x) ∨
      (∃ beanName d plan, (beanName, d) ∈ f.definitions ∧ ¬ Skips o f d ∧
        BeanPlan.ofDefinition f d = .ok (some plan) ∧
        (f.registry.get? plan.userClass).any (·.isAnnotated Known.configuration) = true ∧
        x = .type plan.userClass) ∨
      ∃ l ∈ Listener.all f, x ∈ executableMentions l.method := by
  obtain ⟨beans, between, unfinished, written, listed, rfl⟩ := run_cases complete
  obtain ⟨reflection, -⟩ := writeListeners_closing listed
  have adds := (addsMentions_writeBeans written).trans
    (adds_foldl (fun r l => r.adds_addExecutable l.method) (Listener.all f) between.reflection)
  rw [← reflection] at adds
  obtain ⟨types, members⟩ := Reflection.nodup_mentionsOf.mp (adds.nodup .nil)
  refine ⟨types, members, fun x => (adds.mem x).trans ?_⟩
  simp [BeanMentions, and_or_left, exists_or, or_assoc]

end
namespace ReflectionSample

def creates (name : ClassName) : Executable := { declaringClass := name, kind := .constructor }

def service : ClassName := ⟨"com.example", ["Service"]⟩

def engine : ClassName := ⟨"com.example", ["Engine"]⟩

def fuel : Field where
  declaringClass := engine
  name := "fuel"
  type := .ofClass Known.object
  annotations := [{ type := Known.autowired }]

def definition (name : ClassName) (properties : List (String × BeanValue)) : BeanDefinition :=
  { BeanDefinition.blank with beanClass := some name, properties := properties }

def innermost : BeanDefinition := definition engine []

def inner : BeanDefinition :=
  definition service [("parts", .array (.ofClass Known.object) [.null, .inner innermost])]

def outer : BeanDefinition := definition service [("next", .list [.inner inner])]

def container : BeanFactory where
  registry := ⟨[{ name := service, constructors := [creates service]
                  annotations := [{ type := Known.configuration }] },
    { name := engine, constructors := [creates engine], fields := [fuel] }]⟩
  definitions := [("service", outer)]

end ReflectionSample

open ReflectionSample in
/-- A field of a bean within an inner bean is recorded, and so is the configuration class. -/
theorem reflection_of_sample : ∃ t, run {} noCustoms container = (.ok (), t) ∧
    (t.reflection.entries.map ReflectionEntry.type).Nodup ∧
    .field engine "fuel" ∈ t.reflection.mentions ∧ .type service ∈ t.reflection.mentions := by
  have succeeds : (run {} noCustoms container).1 = .ok () := by decide +kernel
  have complete := run_eq_of_ok succeeds
  have plannedOuter := planned_of_detected
    (show detect container outer = .ok (some (creates service)) by decide +kernel)
  have plannedInner := planned_of_detected
    (show detect container inner = .ok (some (creates service)) by decide +kernel)
  have plannedInnermost := planned_of_detected
    (show detect container innermost = .ok (some (creates engine)) by decide +kernel)
  have kept : ¬ Skips {} container outer := not_skips rfl (by decide +kernel) plannedOuter
  have nested : WrittenWith container outer innermost :=
    .inner plannedOuter (.head _) (.tail _ (.head _))
      (.inner plannedInner (.head _) (.tail _ (.tail _ (.head _))) (.self innermost))
  have injected : ∃ injected ∈ (BeanPlan.ofExecutable container innermost (creates engine)).injections,
      .field engine "fuel" ∈ injectionMentions injected := by decide +kernel
  obtain ⟨types, -, mentions⟩ := reflection_of_run complete
  refine ⟨_, complete, types, (mentions _).mpr (.inl ?_), (mentions _).mpr (.inr (.inl ?_))⟩
  · exact ⟨"service", outer, .head _, kept, innermost, _, nested, plannedInnermost, injected⟩
  · exact ⟨"service", outer, _, .head _, kept, plannedOuter, by decide +kernel, rfl⟩

end Prewire.Pass
