import Prewire.Proofs.Plan.FactoryMethod
import Prewire.Proofs.Plan.Overload
import Prewire.Proofs.Types.AddedMethod
import Prewire.Proofs.Types.Conversion

/-! Methods of supertypes that cannot be factory methods, because they are static or private. One that is
added still hides an eligible method of its signature, if it comes before it in the hierarchy. Where it
hides none, every definition whose arguments and factory class keep their types is created as before. -/
namespace Prewire.Plan

open Java Types Beans

/-- An added method is visible on the factory class in place of an eligible one. -/
def HidesCandidate (r s : Registry) (owner : ClassName) (name : String) (m : Executable) : Prop :=
  m ∈ s.methodsOf owner ∧ ∃ c ∈ factoryMethodCandidates r owner name, m.sameSignature c

/-- Two containers know the same types for the arguments of a definition and the same factory class. -/
structure KeepsTypes (f g : BeanFactory) (d : BeanDefinition) : Prop where
  owner : g.factoryClass? d = f.factoryClass? d
  arguments : g.argumentTypes d = f.argumentTypes d

/-- The definitions that the types of the arguments and the factory class of a definition are asked of. -/
inductive AskedFor (f : BeanFactory) (d : BeanDefinition) : BeanDefinition → Prop
  | argument {a : ArgumentValue} {e : BeanDefinition} (configured : a ∈ d.arguments.ordered)
    (untyped : a.type = none) (asked : f.Asked a.value e) : AskedFor f d e
  | factory {name : String} {e : BeanDefinition} (called : d.factoryBean = some name)
    (asked : f.Asked (.reference name) e) : AskedFor f d e

section
variable {f : BeanFactory} {d : BeanDefinition} {owner : ClassName} {name : String}
variable {e : Executable}

theorem mem_executables_of_least (method : d.factoryMethod = some name)
    (owned : f.factoryClass? d = some owner)
    (least : e ∈ ofLeastTier f.registry (f.argumentTypes d)
      (factoryMethodCandidates f.registry owner name)) :
    e ∈ executables (detect f d) := by
  rcases executables_detect method owned with all | equal
  · rw [all]
    exact (List.mem_filter.mp least).1
  · rwa [equal]

def callOf (owner : ClassName) (name : String) (e : Executable) : BeanDefinition :=
  { BeanDefinition.blank with
    beanClass := some owner, factoryMethod := some name
    arguments := ⟨[], e.parameterTypes.map fun type => ⟨.null, some type⟩⟩ }

theorem factoryClass?_of_direct (direct : d.factoryBean = none) : f.factoryClass? d = d.beanClass := by
  simp [BeanFactory.factoryClass?, BeanFactory.factoryClassAnswer, BeanFactory.factoryClassBy, direct]

theorem argumentTypes_callOf : f.argumentTypes (callOf owner name e) = e.parameterTypes.map some := by
  simp [BeanFactory.argumentTypes, callOf, ConstructorArguments.ordered, BeanFactory.argumentTypeBy]

/-- No type of another bean is asked for it. -/
theorem not_askedFor_callOf {d : BeanDefinition} : ¬ AskedFor f (callOf owner name e) d := by
  rintro (⟨configured, untyped, -⟩ | ⟨called, -⟩)
  · obtain ⟨type, -, rfl⟩ := List.mem_map.mp configured
    cases untyped
  · cases called

/-- Its factory method takes the arguments at the first tier. -/
theorem mem_executables_callOf (candidate : e ∈ factoryMethodCandidates f.registry owner name) :
    e ∈ executables (detect f (callOf owner name e)) := by
  have owned : f.factoryClass? (callOf owner name e) = some owner := factoryClass?_of_direct rfl
  refine mem_executables_of_least rfl owned (List.mem_filter.mpr ⟨candidate, ?_⟩)
  have takes : Takes f.registry (f.argumentTypes (callOf owner name e)) .assignable e := by
    rw [Takes, argumentTypes_callOf, List.forall₂_map_right_iff, List.forall₂_same]
    rintro type - _ ⟨⟩
    simp [fits, f.registry.isAssignable_refl]
  have first : tier? f.registry (f.argumentTypes (callOf owner name e)) e = some .assignable :=
    tier?_eq_some.mpr ⟨takes, by simp [Tier.rank]⟩
  exact hasLeastTier_iff.mpr ⟨_, first, fun _ _ _ _ => Nat.zero_le _⟩

end

section
variable {f : BeanFactory} {s : Registry} {type owner : ClassName} {m : Executable} {name : String}

theorem isEligible_eq_false (declared : m.declaringClass = type) (inherited : type ≠ owner)
    (kind : m.isStatic ∨ m.visibility.isPrivate) : isEligible owner m = false := by
  cases static : m.isStatic with
  | true => simp [isEligible, static, declared, inherited]
  | false => simpa [isEligible, static] using kind

/-- With the added method the candidates are those that it does not hide. -/
theorem factoryMethodCandidates_gained
    (gains : f.registry.Corresponds (TypeDeclaration.Gains type m) s)
    (ineligible : isEligible owner m = false) (name : String) :
    factoryMethodCandidates s owner name =
      (factoryMethodCandidates f.registry owner name).filter fun c =>
        !(decide (m ∈ s.methodsOf owner) && m.sameSignature c) :=
  Registry.filter_firstOfSignature (gains.interspersed owner) _ (by simp [ineligible])

theorem methodsNamed_gained (gains : f.registry.Corresponds (TypeDeclaration.Gains type m) s)
    {other : String} (named : m.methodName? = some name) (differs : other ≠ name) (owner : ClassName)
    (count : Nat) :
    BeanFactory.methodsNamed s owner other count =
      BeanFactory.methodsNamed f.registry owner other count := by
  have dropped : m.methodName? ≠ some other := by simp [named, Ne.symm differs]
  refine (Registry.filter_firstOfSignature (gains.interspersed owner) _ (by simp [dropped])).trans
    (List.filter_eq_self.mpr ?_)
  intro c member
  have called : c.methodName? = some other := by simp_all
  have apart : m.sameSignature c = false := by simp [Executable.sameSignature, called, dropped]
  simp [Registry.hides, apart]

/-- Only what is made by a method of that name can come to have another type. -/
theorem sameProduced_of_gains (gains : f.registry.Corresponds (TypeDeclaration.Gains type m) s)
    (named : m.methodName? = some name) {d : BeanDefinition} (differs : d.factoryMethod ≠ some name) :
    BeanFactory.SameProduced f.registry s d := by
  intro beanType arguments
  apply BeanFactory.producedType_congr gains.gains_view?_eq
  cases method : d.factoryMethod with
  | none => simp only [BeanFactory.methodReturnType, method]
  | some other =>
    have apart : other ≠ name := fun same => differs (same ▸ method)
    simp only [BeanFactory.methodReturnType, method, methodsNamed_gained gains named apart,
      BeanFactory.agreedReturnType_congr gains.gains_view?_eq]

theorem keepsTypes_of_gains (gains : f.registry.Corresponds (TypeDeclaration.Gains type m) s)
    (named : m.methodName? = some name) {d : BeanDefinition}
    (others : ∀ e, AskedFor f d e → e.factoryMethod ≠ some name) :
    KeepsTypes f { f with registry := s } d := by
  have same : f.SameBeans { f with registry := s } := ⟨rfl, rfl⟩
  constructor
  · refine (same.factoryClass?_eq fun _ called e asked => ?_).symm
    exact sameProduced_of_gains gains named (others e (.factory called asked))
  · refine (same.argumentTypes_eq fun _ configured untyped e asked => ?_).symm
    exact sameProduced_of_gains gains named (others e (.argument configured untyped asked))

/-- A static or private method that is added to a supertype of the factory class leaves every detection
as it is, given the types of the arguments, if and only if it hides no candidate. The types stay where no
definition that they are asked of is made by a method of that name. -/
theorem detect_unchanged_iff (gains : f.registry.Corresponds (TypeDeclaration.Gains type m) s)
    (declared : m.declaringClass = type) (inherited : type ≠ owner)
    (kind : m.isStatic ∨ m.visibility.isPrivate) (named : m.methodName? = some name) :
    ((∀ d, d.factoryMethod = some name → f.factoryClass? d = some owner →
      KeepsTypes f { f with registry := s } d → detect { f with registry := s } d = detect f d) ↔
    ¬ HidesCandidate f.registry s owner name m) ∧
    ∀ d, (∀ e, AskedFor f d e → e.factoryMethod ≠ some name) →
      KeepsTypes f { f with registry := s } d := by
  refine ⟨?_, fun d others => keepsTypes_of_gains gains named others⟩
  have candidates := factoryMethodCandidates_gained gains
    (isEligible_eq_false declared inherited kind) name
  constructor
  · rintro unchanged ⟨visible, c, candidate, same⟩
    -- A call with the types of its own parameters tells the hidden candidate apart.
    have before := mem_executables_callOf candidate
    have kept : KeepsTypes f { f with registry := s } (callOf owner name c) :=
      keepsTypes_of_gains gains named fun e asked => absurd asked not_askedFor_callOf
    rw [← unchanged _ rfl (factoryClass?_of_direct rfl) kept] at before
    have after := mem_candidates_of_mem_executables rfl (factoryClass?_of_direct rfl) before
    simp [candidates, visible, same] at after
  · intro hidesNone d method owned keeps
    have unhidden : factoryMethodCandidates s owner name =
        factoryMethodCandidates f.registry owner name := by
      rw [candidates, List.filter_eq_self]
      intro c candidate
      have : ¬ (m ∈ s.methodsOf owner ∧ m.sameSignature c) := by
        rintro ⟨visible, same⟩
        exact hidesNone ⟨visible, c, candidate, same⟩
      simpa [imp_iff_not_or] using this
    simp only [detect, method, detectFactoryMethod, keeps.owner, keeps.arguments, owned, unhidden,
      ← select_congr gains.gains_view?_eq]

end

namespace HidingSample

def owner : ClassName := ⟨"com.example", ["Factory"]⟩
def api : ClassName := ⟨"com.example", ["Api"]⟩
def defaults : ClassName := ⟨"com.example", ["Defaults"]⟩
def text : JavaType := .ofClass Known.string

def create (declaring : ClassName) (isStatic : Bool) (parameters : List JavaType)
    (returned : JavaType) : Executable where
  declaringClass := declaring
  kind := .method "create" (some returned) isStatic
  parameters := parameters.map fun type => { name := "value", type := type }

def interface (name : ClassName) (methods : List Executable) : TypeDeclaration where
  name := name
  kind := .interfaceKind
  methods := methods

def container : BeanFactory where
  registry := ⟨[{ name := owner, interfaces := [.ofClass api, .ofClass defaults] },
    interface api [], interface defaults [create defaults false [text] text]]⟩

def gaining (parameters : List JavaType) : Registry :=
  container.registry.register (interface api [create api true parameters text])

def definition : BeanDefinition :=
  { BeanDefinition.blank with beanClass := some owner, factoryMethod := some "create" }

theorem gains (parameters : List JavaType) : container.registry.Corresponds
    (TypeDeclaration.Gains api (create api true parameters text)) (gaining parameters) :=
  Registry.gains_register (d := interface api []) [] [] rfl rfl

def overloaded : BeanFactory where
  registry := ⟨[{ name := owner, superclass := some (.ofClass api)
                  methods := [create owner true [] text, create owner true [text] text,
                    create owner true [.ofClass owner] text] }, { name := api }]⟩
  definitions := [("text", definition)]

def pair : Executable := create api true [text, text] (.ofClass Primitive.int.boxed)

def overloadedGaining : Registry := overloaded.registry.register { name := api, methods := [pair] }

def referring : BeanDefinition :=
  { definition with arguments := ⟨[], [⟨.reference "text", none⟩]⟩ }

end HidingSample

open HidingSample in
/-- A static method without parameters does not hide the one for texts. -/
theorem detect_unchanged_without_parameters :
    detect { container with registry := gaining [] } definition = detect container definition := by
  have hidesNone : ¬ HidesCandidate container.registry (gaining []) owner "create"
      (create api true [] text) := by
    have apart : ∀ c ∈ factoryMethodCandidates container.registry owner "create",
        (create api true [] text).sameSignature c = false := by decide +kernel
    rintro ⟨-, c, candidate, same⟩
    simp [apart c candidate] at same
  have unasked : ∀ e, AskedFor container definition e → e.factoryMethod ≠ some "create" := by
    rintro e (⟨configured, -, -⟩ | ⟨called, -⟩)
    · cases configured
    · cases called
  have apart : api ≠ owner := by decide
  obtain ⟨unchanged, keeps⟩ := detect_unchanged_iff (gains []) rfl apart (.inl rfl) rfl
  exact unchanged.mpr hidesNone definition rfl rfl (keeps definition unasked)

/-- A definition is created by something else after a method is added to a supertype of its factory class
that cannot be the factory method. -/
structure Interferes (f : BeanFactory) (s : Registry) (d : BeanDefinition) (type owner : ClassName)
    (m : Executable) : Prop where
  gains : f.registry.Corresponds (TypeDeclaration.Gains type m) s
  declared : m.declaringClass = type
  inherited : type ≠ owner
  supertype : f.registry.isSubtype owner type
  kind : m.isStatic ∨ m.visibility.isPrivate
  method : d.factoryMethod = m.methodName?
  owned : f.factoryClass? d = some owner
  changed : detect { f with registry := s } d ≠ detect f d

open HidingSample in
/-- A static method hides that of another interface. One that hides none still counts for the type of a
bean that is an argument. -/
theorem interferes_static :
    Interferes container (gaining [text]) definition api owner (create api true [text] text) ∧
    Interferes overloaded overloadedGaining referring api owner pair ∧
    ¬ HidesCandidate overloaded.registry overloadedGaining owner "create" pair := by
  refine ⟨⟨gains _, rfl, by decide, by decide +kernel, .inl rfl, rfl, rfl, by decide +kernel⟩,
    ⟨?_, rfl, by decide, by decide +kernel, .inl rfl, rfl, rfl, by decide +kernel⟩, ?_⟩
  · exact Registry.gains_register (d := { name := api }) [] [] rfl rfl
  · have apart : ∀ c ∈ factoryMethodCandidates overloaded.registry owner "create",
        pair.sameSignature c = false := by decide +kernel
    rintro ⟨-, c, candidate, same⟩
    simp [apart c candidate] at same

end Prewire.Plan
