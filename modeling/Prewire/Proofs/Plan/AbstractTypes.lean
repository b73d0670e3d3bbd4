import Prewire.Proofs.Plan.FactoryMethod
import Prewire.Proofs.Types.Bounds
import Prewire.Proofs.Types.Hierarchy

/-! Constructors of abstract types. Detection only settles on constructors that the type of the bean class
declares, and an ordinary type has to be concrete for that. A factory bean gives its first constructor
whether or not its type is abstract. -/
namespace Prewire.Plan

open Java Types Beans

/-- Detection settles on a constructor, which the type of the bean class declares. -/
structure Constructs (f : BeanFactory) (d : BeanDefinition) (type : TypeDeclaration)
    (e : Executable) : Prop where
  detected : detect f d = .ok (some e)
  constructor : e.isConstructor
  beanClass : d.beanClass = some type.name
  known : f.registry.get? type.name = some type
  declared : e ∈ type.constructors

/-- A factory bean whose first entry among the constructors is one, and that can produce the target
type where one is asked for. -/
structure ConstructsFactory (f : BeanFactory) (d : BeanDefinition) (type : TypeDeclaration)
    (e : Executable) : Prop where
  noMethod : d.factoryMethod = none
  beanClass : d.beanClass = some type.name
  known : f.registry.get? type.name = some type
  factory : f.registry.isSubtype type.name Known.factoryBean
  first : type.constructors.head? = some e
  constructor : e.isConstructor
  target : ∀ target ∈ d.targetType, producesTarget f.registry type.name target

section
variable {f : BeanFactory} {d : BeanDefinition} {type : TypeDeclaration} {e : Executable}

/-- A factory method has a name, which a constructor has not. -/
theorem methodName?_of_detected {method : String} (named : d.factoryMethod = some method)
    (detected : detect f d = .ok (some e)) : e.methodName? = some method := by
  cases owned : f.factoryClass? d with
  | none => simp [detect, named, detectFactoryMethod, owned] at detected
  | some owner =>
    have eligible := (List.mem_filter.mp (mem_candidates named owned detected)).2
    rw [Bool.and_eq_true, decide_eq_true_eq] at eligible
    exact eligible.1

theorem detectFactoryBeanConstructor_eq_some {r : Registry} :
    detectFactoryBeanConstructor r d type = .ok (some e) ↔
      type.constructors.head? = some e ∧
        ∀ target ∈ d.targetType, producesTarget r type.name target := by
  rw [detectFactoryBeanConstructor]
  cases d.targetType with
  | none => simp
  | some target => by_cases produces : producesTarget r type.name target <;> simp [produces]

/-- An ordinary type only gives a constructor when it is concrete. -/
theorem mem_of_detectConstructor (detected : detectConstructor f d type = .ok (some e)) :
    e ∈ type.constructors ∧ type.isAbstract = false := by
  rw [detectConstructor] at detected
  split at detected
  · cases detected
  · next concrete =>
    refine ⟨?_, by simpa using concrete⟩
    split at detected
    · next single only =>
      obtain rfl := Option.some.inj (Except.ok.inj detected)
      simp [only]
    · split at detected
      · next marked only =>
        obtain rfl := Option.some.inj (Except.ok.inj detected)
        exact (List.mem_filter.mp (only ▸ List.mem_singleton_self marked)).1
      · exact (mem_of_select detected).1

/-- A detected constructor comes from the type of the bean class, either the first one of a factory bean
or one of a concrete type. -/
theorem constructs_of_detected (detected : detect f d = .ok (some e)) (constructor : e.isConstructor) :
    ∃ type, Constructs f d type e ∧ (ConstructsFactory f d type e ∨ type.isAbstract = false) := by
  have nameless : e.methodName? = none := by
    have kind : e.kind = .constructor := by simpa [Executable.isConstructor] using constructor
    rw [Executable.methodName?, kind]
  have found := detected
  rw [detect] at detected
  split at detected
  · next named =>
    cases nameless.symm.trans (methodName?_of_detected named found)
  · cases detected
  · next beanClass noMethod named =>
    split at detected
    · cases detected
    · next type known =>
      obtain rfl := Registry.name_of_get? known
      split at detected
      · next factory =>
        obtain ⟨first, target⟩ := detectFactoryBeanConstructor_eq_some.mp detected
        refine ⟨type, ⟨found, constructor, named, known, List.mem_of_head? first⟩, .inl ?_⟩
        exact ⟨noMethod, named, known, factory, first, constructor, target⟩
      · obtain ⟨declared, concrete⟩ := mem_of_detectConstructor detected
        exact ⟨type, ⟨found, constructor, named, known, declared⟩, .inr concrete⟩

theorem ConstructsFactory.constructs (factory : ConstructsFactory f d type e) :
    Constructs f d type e where
  detected := by
    simp only [detect, factory.noMethod, factory.beanClass, factory.known, factory.factory, if_true]
    exact detectFactoryBeanConstructor_eq_some.mpr ⟨factory.first, factory.target⟩
  constructor := factory.constructor
  beanClass := factory.beanClass
  known := factory.known
  declared := List.mem_of_head? factory.first

/-- Every detected constructor is one that the type of the bean class declares. The type is abstract if
and only if it is an abstract factory bean that is asked for its first constructor. -/
theorem constructs_abstract_iff (f : BeanFactory) (d : BeanDefinition) :
    (∀ e, detect f d = .ok (some e) → e.isConstructor → ∃ type, Constructs f d type e) ∧
    ∀ type e, Constructs f d type e ∧ type.isAbstract = true ↔
      ConstructsFactory f d type e ∧ type.isAbstract = true := by
  constructor
  · intro e detected constructor
    obtain ⟨type, constructs, -⟩ := constructs_of_detected detected constructor
    exact ⟨type, constructs⟩
  · intro type e
    constructor
    · rintro ⟨constructs, isAbstract⟩
      obtain ⟨same, other, choice⟩ :=
        constructs_of_detected constructs.detected constructs.constructor
      obtain rfl : type = same := by
        have names := constructs.beanClass.symm.trans other.beanClass
        have known := constructs.known
        rw [Option.some.inj names, other.known] at known
        exact (Option.some.inj known).symm
      exact ⟨choice.resolve_right (by simp [isAbstract]), isAbstract⟩
    · rintro ⟨factory, isAbstract⟩
      exact ⟨factory.constructs, isAbstract⟩

end

namespace AbstractSample

def owner : ClassName := ⟨"com.example", ["TextFactory"]⟩

def declaration : TypeDeclaration :=
  TypeDeclaration.withImplicitConstructor
    { name := owner, declaredAbstract := true
      interfaces := [.classType Known.factoryBean [.ofClass Known.string]] }

def constructor : Executable := { declaringClass := owner, kind := .constructor }

def container : BeanFactory where
  registry := ⟨[declaration]⟩

def definition : BeanDefinition := { BeanDefinition.blank with beanClass := some owner }

def definitionOfText : BeanDefinition :=
  { definition with targetType := some (.ofClass Known.string) }

end AbstractSample

open AbstractSample in
/-- A target type that the factory bean can produce changes nothing. -/
theorem constructs_abstract_targeted :
    ConstructsFactory container definitionOfText declaration constructor ∧
    Constructs container definitionOfText declaration constructor ∧
    declaration.isAbstract = true := by
  have produces : ∀ target ∈ definitionOfText.targetType,
      producesTarget container.registry declaration.name target := by
    rintro target ⟨⟩
    have unbounded : container.registry.parameterBounds declaration.name = [] := by decide +kernel
    simp only [producesTarget, unbounded, Registry.isAssignableWithin_nil]
    decide +kernel
  have factory : ConstructsFactory container definitionOfText declaration constructor :=
    ⟨rfl, rfl, rfl, by decide +kernel, rfl, rfl, produces⟩
  exact ⟨factory, ((constructs_abstract_iff _ _).2 _ _).mpr ⟨factory, rfl⟩⟩

open AbstractSample in
/-- The implicit constructor of an abstract factory bean is taken. -/
theorem constructs_abstract_factory :
    Constructs container definition declaration constructor ∧ declaration.isAbstract = true := by
  refine ⟨⟨by decide +kernel, rfl, rfl, rfl, ?_⟩, rfl⟩
  exact List.mem_singleton_self _

end Prewire.Plan
