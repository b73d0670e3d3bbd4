import Prewire.Plan.Detection
import Prewire.Proofs.Beans.ReturnType
import Prewire.Proofs.Plan.LeastTier

/-! Two ways to the type that a factory method returns. Detection settles on one eligible method;
the type of the definition is that on which all visible methods agree that take the arguments by
assignment. -/
namespace Prewire.Plan

open Java Types Beans BeanFactory

/-- What the container asks by assignment, detection asks at the first tier. -/
theorem takes_of_accepts {r : Registry} {parameters : List JavaType} {arguments : List ArgumentType}
    (counts : parameters.length = arguments.length)
    (taken : acceptsArguments r parameters arguments = some true) :
    List.Forall₂ (fun parameter argument =>
      ∀ type ∈ argument, fits r .assignable parameter type = true)
      parameters (arguments.map fun a => (a ()).join) := by
  induction parameters generalizing arguments with
  | nil =>
    obtain rfl : arguments = [] := by simpa using counts.symm
    exact .nil
  | cons parameter parameters ih =>
    cases arguments with
    | nil => simp at counts
    | cons argument arguments =>
      have ih := ih (by simpa using counts)
      simp only [acceptsArguments] at taken
      cases answer : argument () with
      | none => simp [answer] at taken
      | some type =>
        cases type with
        | none =>
          refine .cons (by simp [answer]) (ih ?_)
          simpa [answer] using taken
        | some type =>
          have fitting : r.isAssignable parameter type := by
            by_contra unfit
            simp [answer, unfit] at taken
          refine .cons ?_ (ih ?_)
          · simp [answer, fits, fitting]
          · simpa [answer, fitting] using taken

/-- A method takes the arguments of a definition by assignment, one for each of its parameters, unless
none are configured: then its parameters are autowired. -/
def TakesConfigured (f : BeanFactory) (d : BeanDefinition) (m : Executable) : Prop :=
  d.arguments.count ≠ 0 →
    m.parameterCount = d.arguments.count ∧ takes f.registry (f.configured d) m = true

instance (f : BeanFactory) (d : BeanDefinition) (m : Executable) :
    Decidable (TakesConfigured f d m) := inferInstanceAs (Decidable (_ → _))

section
variable {f : BeanFactory} {d : BeanDefinition} {name : String} {owner : ClassName}
variable {e m : Executable}

/-- Detection names all candidates for the factory method, or those of least tier. -/
theorem executables_detect (named : d.factoryMethod = some name)
    (owned : f.factoryClass? d = some owner) :
    executables (detect f d) = factoryMethodCandidates f.registry owner name ∨
    executables (detect f d) = ofLeastTier f.registry (f.argumentTypes d)
      (factoryMethodCandidates f.registry owner name) := by
  simp only [detect, named, detectFactoryMethod, owned]
  split
  · next none => simp [executables, none]
  · next single only => simp [executables, only]
  · exact .inr (executables_select _)

/-- Detection leaves the chosen method alone with the least tier, or finds no other eligible one. -/
theorem candidates_of_detected (named : d.factoryMethod = some name)
    (owned : f.factoryClass? d = some owner) (detected : detect f d = .ok (some e)) :
    factoryMethodCandidates f.registry owner name = [e] ∨
      ofLeastTier f.registry (f.argumentTypes d)
        (factoryMethodCandidates f.registry owner name) = [e] := by
  have alone : executables (detect f d) = [e] := by rw [detected]; rfl
  rcases executables_detect named owned with all | least
  · exact .inl (all.symm.trans alone)
  · exact .inr (least.symm.trans alone)

theorem mem_candidates_of_mem_executables (named : d.factoryMethod = some name)
    (owned : f.factoryClass? d = some owner) (about : e ∈ executables (detect f d)) :
    e ∈ factoryMethodCandidates f.registry owner name := by
  rcases executables_detect named owned with all | least
  · rwa [← all]
  · exact (List.mem_filter.mp (least ▸ about)).1

theorem mem_candidates (named : d.factoryMethod = some name)
    (owned : f.factoryClass? d = some owner) (detected : detect f d = .ok (some e)) :
    e ∈ factoryMethodCandidates f.registry owner name :=
  mem_candidates_of_mem_executables named owned (by simp [detected, executables])

theorem takes_assignable (configured : d.arguments.count ≠ 0) (taken : TakesConfigured f d m) :
    Takes f.registry (f.argumentTypes d) .assignable m := by
  obtain ⟨counts, accepted⟩ := taken configured
  rw [Takes, argumentTypes_eq_map]
  apply takes_of_accepts
  · rw [Executable.parameterTypes, List.length_map, length_configured]
    exact counts
  · simpa [takes] using accepted

/-- An eligible method that takes configured arguments by assignment is the chosen one. -/
theorem eq_of_detected (configured : d.arguments.count ≠ 0) (named : d.factoryMethod = some name)
    (owned : f.factoryClass? d = some owner) (detected : detect f d = .ok (some e))
    (member : m ∈ factoryMethodCandidates f.registry owner name)
    (taken : TakesConfigured f d m) : m = e := by
  rcases candidates_of_detected named owned detected with single | best
  · simpa [single] using member
  · have first : tier? f.registry (f.argumentTypes d) m = some .assignable :=
      tier?_eq_some.mpr ⟨takes_assignable configured taken, by simp [Tier.rank]⟩
    have least : m ∈ ofLeastTier f.registry (f.argumentTypes d)
        (factoryMethodCandidates f.registry owner name) := by
      refine List.mem_filter.mpr ⟨member, hasLeastTier_iff.mpr ⟨_, first, ?_⟩⟩
      intro other _ higher _
      simp [Tier.rank]
    simpa [best] using least

theorem answers_of_takes (taken : TakesConfigured f d m) : ∀ a ∈ f.configured d, (a ()).isSome := by
  by_cases configured : d.arguments.count = 0
  · have empty : f.configured d = [] := by
      rw [← List.length_eq_zero_iff, length_configured, configured]
    simp [empty]
  · obtain ⟨counts, accepted⟩ := taken configured
    refine answers_of_accepts f.registry _ ?_ (by simpa [takes] using accepted)
    rw [length_configured, ← counts, Executable.parameterTypes, List.length_map]
    exact Nat.le_refl _

/-- The types on which the container wants agreement. -/
theorem mem_returnedTypes {type : JavaType} :
    type ∈ returnedTypes f.registry (f.configured d)
        (methodsNamed f.registry owner name d.arguments.count) ↔
      ∃ m ∈ f.registry.methodsOf owner,
        m.methodName? = some name ∧ TakesConfigured f d m ∧ m.returnType? = some type := by
  have asked (m : Executable) : ((d.arguments.count = 0 ∨ m.parameterCount = d.arguments.count) ∧
      takes f.registry (f.configured d) m) ↔ TakesConfigured f d m := by
    by_cases configured : d.arguments.count = 0
    · have empty : f.configured d = [] := by
        rw [← List.length_eq_zero_iff, length_configured, configured]
      simp [TakesConfigured, configured, empty, takes, acceptsArguments]
    · simp [TakesConfigured, configured]
  simp only [returnedTypes, methodsNamed, List.mem_filterMap, List.mem_filter, Bool.and_eq_true,
    Bool.or_eq_true, decide_eq_true_eq, ← asked, and_assoc]

def Agree (f : BeanFactory) (owner : ClassName) (name : String) (returned : JavaType) : Prop :=
  ∀ m ∈ factoryMethodCandidates f.registry owner name, m.returnType?.all (· = returned)

/-- Where the chosen method takes the configured arguments by assignment and ineligible ones do not
interfere, the definition has the type that the method returns. Without arguments the eligible
methods have to agree on it, and otherwise the definition has the type of its class. -/
theorem definitionType?_of_detected {returned : JavaType} (untargeted : d.targetType = none)
    (named : d.factoryMethod = some name) (owned : f.factoryClass? d = some owner)
    (detected : detect f d = .ok (some e)) (returns : e.returnType? = some returned)
    (ordinary : f.registry.view? returned Known.factoryBean = none)
    (taken : TakesConfigured f d e)
    (others : ∀ m ∈ f.registry.methodsOf owner, m.methodName? = some name →
      isEligible owner m = false → TakesConfigured f d m → m.returnType?.all (· = returned)) :
    (d.arguments.count ≠ 0 ∨ Agree f owner name returned → f.definitionType? d = some returned) ∧
    (d.arguments.count = 0 → ¬ Agree f owner name returned →
      f.definitionType? d = f.classType? d) := by
  have answers := answers_of_takes taken
  have type := definitionType?_of_answers untargeted named owned
    fun m _ => accepts_of_answers f.registry _ m.parameterTypes answers
  obtain ⟨visible, eligible⟩ := List.mem_filter.mp (mem_candidates named owned detected)
  obtain ⟨sameName, -⟩ := Bool.and_eq_true_iff.mp eligible
  have present := (mem_returnedTypes (f := f) (d := d)).mpr
    ⟨e, visible, by simpa using sameName, taken, returns⟩
  constructor
  · intro decided
    have agreed := agreement_eq_some.mpr ⟨present, ?_⟩
    · rw [type, agreed]
      simp [objectType?, ordinary]
    · intro other member
      obtain ⟨m, visible, sameName, taken, returnsOther⟩ := mem_returnedTypes.mp member
      suffices m.returnType?.all (· = returned) by simpa [returnsOther] using this
      cases eligible : isEligible owner m with
      | false => exact others m visible sameName eligible taken
      | true =>
        have candidate : m ∈ factoryMethodCandidates f.registry owner name :=
          List.mem_filter.mpr ⟨visible, by simp [sameName, eligible]⟩
        rcases decided with configured | agree
        · obtain rfl := eq_of_detected configured named owned detected candidate taken
          simp [returns]
        · exact agree m candidate
  · intro unconfigured disagree
    rw [type]
    cases agreed : agreement (returnedTypes f.registry (f.configured d)
        (methodsNamed f.registry owner name d.arguments.count)) with
    | none => rfl
    | some agreed' =>
      obtain ⟨-, alike⟩ := agreement_eq_some.mp agreed
      refine absurd (fun m candidate => ?_) disagree
      obtain ⟨visible, eligible⟩ := List.mem_filter.mp candidate
      obtain ⟨sameName, -⟩ := Bool.and_eq_true_iff.mp eligible
      cases returnsOther : m.returnType? with
      | none => simp
      | some other =>
        have member := (mem_returnedTypes (f := f) (d := d)).mpr
          ⟨m, visible, by simpa using sameName, fun configured => absurd unconfigured configured,
            returnsOther⟩
        simp [alike other member, alike returned present]

end

namespace FactorySample

def owner : ClassName := ⟨"com.example", ["Factory"]⟩
def base : ClassName := ⟨"com.example", ["Base"]⟩
def integer : JavaType := .ofClass Primitive.int.boxed
def text : JavaType := .ofClass Known.string
def first : JavaType := .ofClass ⟨"com.example", ["First"]⟩
def second : JavaType := .ofClass ⟨"com.example", ["Second"]⟩

def create (declaring : ClassName) (parameters : List JavaType) (returned : JavaType) : Executable where
  declaringClass := declaring
  kind := .method "create" (some returned) true
  parameters := parameters.map fun type => { name := "value", type := type }

def factory (methods inherited : List Executable) : BeanFactory where
  registry := ⟨[{ name := owner, superclass := some (.ofClass base), methods := methods },
    { name := base, methods := inherited }]⟩

def overloaded : BeanFactory := factory [create owner [text] second, create owner [integer] first] []

def definition (arguments : List BeanValue) : BeanDefinition :=
  { BeanDefinition.blank with
    beanClass := some owner, factoryMethod := some "create"
    arguments := ⟨[], arguments.map (⟨·, none⟩)⟩ }

end FactorySample

open FactorySample in
/-- The definition has the type that the overload for numbers returns. -/
theorem definitionType?_of_detected_sample :
    detect overloaded (definition [.int 42]) = .ok (some (create owner [integer] first)) ∧
    overloaded.definitionType? (definition [.int 42]) = some first := by
  have detected : detect overloaded (definition [.int 42]) =
      .ok (some (create owner [integer] first)) := by decide +kernel
  have taken : TakesConfigured overloaded (definition [.int 42]) (create owner [integer] first) := by
    decide +kernel
  have eligible : ∀ m ∈ overloaded.registry.methodsOf owner, isEligible owner m = true := by
    decide +kernel
  refine ⟨detected, (definitionType?_of_detected rfl rfl rfl detected rfl (by decide +kernel) taken
    fun m member _ ineligible _ => ?_).1 (.inl (by decide))⟩
  simp [eligible m member] at ineligible

/-- A definition whose type is not the one that the detected method returns. -/
structure Differs (f : BeanFactory) (d : BeanDefinition) (e : Executable) (returned : JavaType) :
    Prop where
  untargeted : d.targetType = none
  named : d.factoryMethod.isSome
  detected : detect f d = .ok (some e)
  returns : e.returnType? = some returned
  ordinary : f.registry.view? returned Known.factoryBean = none
  differs : f.definitionType? d ≠ some returned

open FactorySample in
/-- The types come apart for overloads without arguments, for a lone method that takes its argument
by conversion only, and where a method that cannot be called from the class takes the arguments. -/
theorem differs_of_overloads :
    Differs (factory [create owner [] first, create owner [second] second] []) (definition [])
      (create owner [] first) first ∧
    Differs (factory [create owner [integer] first] []) (definition [.string "42"])
      (create owner [integer] first) first ∧
    Differs (factory [create owner [integer] first] [create base [.ofClass Known.object] second])
      (definition [.int 42]) (create owner [integer] first) first := by
  refine ⟨⟨?_, ?_, ?_, ?_, ?_, ?_⟩, ⟨?_, ?_, ?_, ?_, ?_, ?_⟩, ⟨?_, ?_, ?_, ?_, ?_, ?_⟩⟩ <;> decide +kernel

end Prewire.Plan
