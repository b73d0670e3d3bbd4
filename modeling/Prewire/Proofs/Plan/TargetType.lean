import Prewire.Plan.Detection
import Prewire.Proofs.Types.Invariance
import Prewire.Proofs.Types.Bounds
import Prewire.Proofs.Types.Hierarchy

/-! Target types of factory beans. What a factory bean produces is a type with the type parameters of its
class in it. For parameters that are replaced within their bounds the rules take the outcome for the
produced type, at any depth of type arguments and arrays, so that a factory bean can always be asked for it. -/
namespace Prewire.Types.Registry

open Java JavaType

section
variable {r : Registry} {accepts : String → JavaType → Option Bool}
variable {value? : String → Option JavaType}

mutual
/-- A type agrees with what becomes of it when its variables get values that they accept. -/
theorem agrees_substitute
    (accepted : ∀ v, accepts v ((JavaType.variable v).substitute value?) = some true) :
    ∀ t : JavaType, r.agrees accepts t (t.substitute value?) = some true
  | .variable v => by
    rw [agrees]
    exact accepted v
  | .primitive p => by simp [agrees, substitute]
  | .classType name arguments => by
    have lengths : arguments.length = (substituteAll value? arguments).length := by
      simp [substituteAll_eq_map]
    rw [substitute, agrees_classType accepts lengths]
    exact ⟨rfl, agreeAll_substitute accepted arguments⟩
  | .array component => by
    rw [substitute, agrees]
    exact agrees_substitute accepted component
theorem agreeAll_substitute
    (accepted : ∀ v, accepts v ((JavaType.variable v).substitute value?) = some true) :
    ∀ ts : List JavaType, r.agreeAll accepts ts (substituteAll value? ts) = some true
  | [] => by rw [substituteAll, agreeAll]; simp
  | t :: ts => by
    rw [substituteAll, agreeAll_cons]
    exact ⟨agrees_substitute accepted t, agreeAll_substitute accepted ts⟩
end

theorem isPrimitive_substitute (references : ∀ v t, value? v = some t → t.isPrimitive = false)
    {t : JavaType} (reference : t.isPrimitive = false) : (t.substitute value?).isPrimitive = false := by
  cases t with
  | primitive => cases reference
  | classType | array => rfl
  | «variable» v =>
    rw [substitute]
    cases found : value? v with
    | none => rfl
    | some t => exact references v t found

/-- A type takes what becomes of it when its variables get references that they accept. -/
theorem assigns_substitute
    (accepted : ∀ v, accepts v ((JavaType.variable v).substitute value?) = some true)
    (references : ∀ v t, value? v = some t → t.isPrimitive = false) :
    ∀ t : JavaType, r.assigns accepts t (t.substitute value?) = some true
  | .primitive p => by simp [assigns, substitute]
  | .variable v => by
    rw [assigns, accepted v, ite_self]
  | .classType name arguments => by
    have agree := agrees_substitute (r := r) accepted (.classType name arguments)
    rw [substitute] at agree ⊢
    refine (assigns_classType_iff accepts).mpr (.inr ⟨_, view?_self r name _, ?_⟩)
    split
    · simp [ofClass, agrees]
    · exact agree
  | .array component => by
    rw [substitute, assigns]
    cases plain : component.isPrimitive with
    | true =>
      cases component with
      | primitive => simp [substitute]
      | _ => cases plain
    | false =>
      simp [isPrimitive_substitute references plain, assigns_substitute accepted references component]

/-- Values for the type parameters of a class: references, of which the first bound of a parameter takes
the one that the parameter gets. -/
structure KeepsBounds (r : Registry) (d : TypeDeclaration) (value? : String → Option JavaType) : Prop where
  references : ∀ v t, value? v = some t → t.isPrimitive = false
  within : ∀ p ∈ d.typeParameters, ∀ bound, p.bounds.head? = some bound →
    r.isAssignableWithin (r.parameterBounds d.name) bound ((JavaType.variable p.name).substitute value?)

theorem exists_parameter_of_bound {d : TypeDeclaration} (known : r.get? d.name = some d) {v : String}
    {bound : JavaType} (found : (r.parameterBounds d.name).value? v = some bound) :
    ∃ p ∈ d.typeParameters, p.name = v ∧ p.bounds.head? = some bound := by
  have listed := Bindings.mem_of_value? found
  rw [parameterBounds, known] at listed
  obtain ⟨p, declared, bounded⟩ := List.mem_filterMap.mp listed
  obtain ⟨first, head, same⟩ := Option.map_eq_some_iff.mp bounded
  obtain ⟨rfl, rfl⟩ := Prod.mk.inj same
  exact ⟨p, declared, rfl, head⟩

/-- Within its bounds a class accepts for each type what becomes of it under such values. -/
theorem KeepsBounds.isAssignableWithin {d : TypeDeclaration} (keeps : r.KeepsBounds d value?)
    (known : r.get? d.name = some d) (t : JavaType) :
    r.isAssignableWithin (r.parameterBounds d.name) t (t.substitute value?) := by
  rw [Registry.isAssignableWithin, assignsWithin, beq_iff_eq]
  refine assigns_substitute (fun v => ?_) keeps.references t
  rw [withinBound]
  cases found : (r.parameterBounds d.name).value? v with
  | none => rfl
  | some bound =>
    obtain ⟨p, declared, rfl, head⟩ := exists_parameter_of_bound known found
    simpa [Registry.isAssignableWithin] using keeps.within p declared bound head

end
end Prewire.Types.Registry

namespace Prewire.Plan

open Java Types Beans

/-- A factory bean whose class is seen as a factory of some type is given its first constructor for every
target type that this type becomes within the bounds of the class. -/
theorem detect_of_produced {f : BeanFactory} {d : BeanDefinition} {type : TypeDeclaration}
    {produced : JavaType} {value? : String → Option JavaType}
    (known : f.registry.get? type.name = some type)
    (viewed : f.registry.view? (.ofClass type.name) Known.factoryBean =
      some (.classType Known.factoryBean [produced]))
    (keeps : f.registry.KeepsBounds type value?) (noMethod : d.factoryMethod = none)
    (beanClass : d.beanClass = some type.name)
    (target : d.targetType = some (produced.substitute value?)) :
    detect f d = .ok type.constructors.head? := by
  have factory : f.registry.isSubtype type.name Known.factoryBean := by
    rw [Registry.isSubtype, viewed]
    rfl
  have produces : producesTarget f.registry type.name (produced.substitute value?) := by
    rw [producesTarget, producedType?, BeanFactory.objectType?, viewed]
    exact keeps.isAssignableWithin known produced
  simp [detect, noMethod, beanClass, known, factory, detectFactoryBeanConstructor, target, produces]

namespace ProducedSample

def owner : ClassName := ⟨"com.example", ["TableFactory"]⟩
def row : ClassName := ⟨"com.example", ["Row"]⟩

def integer : JavaType := .ofClass Primitive.int.boxed

/-- Tables from the number `T` to arrays of the list `U` of it. -/
def produced : JavaType :=
  .array (.classType Known.map [.variable "T", .classType Known.list [.array (.variable "U")]])

def declaration : TypeDeclaration :=
  TypeDeclaration.withImplicitConstructor
    { name := owner
      typeParameters := [
        { name := "T", bounds := [.ofClass Known.number] },
        { name := "U", bounds := [.classType Known.list [.variable "T"]] }]
      interfaces := [.classType Known.factoryBean [produced]] }

def constructor : Executable := { declaringClass := owner, kind := .constructor }

def container : BeanFactory where
  registry := ⟨[
    declaration,
    { name := row, typeParameters := [{ name := "E" }]
      interfaces := [.classType Known.list [.variable "E"]] },
    { name := Primitive.int.boxed, superclass := some (.ofClass Known.number) }]⟩

def value? : String → Option JavaType :=
  Bindings.value? [("T", integer), ("U", .classType row [integer])]

def definition : BeanDefinition :=
  { BeanDefinition.blank with beanClass := some owner, targetType := some (produced.substitute value?) }

/-- The bound of `U` is reached through the list that a row is, and then that of `T` in it. -/
theorem keepsBounds : container.registry.KeepsBounds declaration value? where
  references := by
    intro v t found
    have listed := Bindings.mem_of_value? found
    simp only [List.mem_cons, Prod.mk.injEq, List.not_mem_nil, or_false] at listed
    rcases listed with ⟨-, rfl⟩ | ⟨-, rfl⟩ <;> rfl
  within := by
    intro p declared bound head
    have listed : p ∈ [_, _] := declared
    simp only [List.mem_cons, List.not_mem_nil, or_false] at listed
    rcases listed with rfl | rfl <;> obtain rfl := Option.some.inj head <;>
      exact Registry.isAssignableWithin_of_upTo 2 (by decide +kernel)

end ProducedSample

open ProducedSample in
/-- Tables of rows can be asked of a factory of tables. -/
theorem detect_of_produced_rows :
    container.registry.get? declaration.name = some declaration ∧
    container.registry.view? (.ofClass declaration.name) Known.factoryBean =
      some (.classType Known.factoryBean [produced]) ∧
    container.registry.KeepsBounds declaration value? ∧
    definition.targetType = some (.array (.classType Known.map
      [integer, .classType Known.list [.array (.classType row [integer])]])) ∧
    detect container definition = .ok (some constructor) := by
  have known : container.registry.get? declaration.name = some declaration := rfl
  have viewed : container.registry.view? (.ofClass declaration.name) Known.factoryBean =
      some (.classType Known.factoryBean [produced]) := by decide +kernel
  exact ⟨known, viewed, keepsBounds, rfl, detect_of_produced known viewed keepsBounds rfl rfl rfl⟩

end Prewire.Plan
