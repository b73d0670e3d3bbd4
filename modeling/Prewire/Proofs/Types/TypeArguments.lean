import Prewire.Proofs.Types.Conversion
import Prewire.Types.Preloaded

/-! Type arguments agree more often than types can be assigned: a variable agrees with any, also where
arrays of primitives admit no other. What a collection keeps of its elements when it is seen as another
class is a property of the declarations. -/
namespace Prewire.Types

open Java

/-- Arrays of a primitive, and arrays of a type variable to the same depth. -/
inductive PrimitiveArrays : (target source : JavaType) → Prop
  | component (p : Primitive) (name : String) :
    PrimitiveArrays (.array (.primitive p)) (.array (.variable name))
  | array {target source : JavaType} (inner : PrimitiveArrays target source) :
    PrimitiveArrays (.array target) (.array source)

theorem primitiveArrays_array {target source : JavaType} (reference : target.isPrimitive = false) :
    PrimitiveArrays (.array target) (.array source) ↔ PrimitiveArrays target source := by
  constructor
  · rintro (_ | inner)
    · cases reference
    · assumption
  · exact .array

theorem PrimitiveArrays.mentionsVariable {target source : JavaType}
    (arrays : PrimitiveArrays target source) : source.mentionsVariable = true := by
  induction arrays with
  | component p name => rfl
  | array _ ih => rwa [JavaType.mentionsVariable]

namespace Registry

section
variable {r : Registry} {name : ClassName}

/-- A class seen as itself; `Object` has no type arguments then. -/
theorem view?_self (r : Registry) (name : ClassName) (arguments : List JavaType) :
    r.view? (.classType name arguments) name =
      some (if Known.isNamed Known.object name then .ofClass name else .classType name arguments) := by
  rw [view?]
  split
  · next top => simp_all
  · next below =>
    rw [search_found rfl]
    simp_all [JavaType.rawClass?]

theorem isAssignable_array_iff {component other : JavaType} (reference : component.isPrimitive = false)
    (otherReference : other.isPrimitive = false) :
    r.isAssignable (.array component) (.array other) ↔ r.isAssignable component other := by
  by_cases same : component = other
  · subst same
    exact iff_of_true (r.isAssignable_refl _) (r.isAssignable_refl _)
  · simp [isAssignable, assigns, same, reference, otherReference]

theorem isAssignable_of_agrees_class {other : ClassName} {arguments others : List JavaType}
    (agree : r.agrees (fun _ _ => some true) (.classType name arguments) (.classType other others) =
      some true) : r.isAssignable (.classType name arguments) (.classType other others) := by
  simp only [agrees, ne_eq, ite_not] at agree
  split at agree
  · next same =>
    subst same
    simp only [isAssignable, assigns, JavaType.boxed, view?_self]
    by_cases top : Known.isNamed Known.object name
    · simp [top, JavaType.ofClass, JavaType.arguments]
    · simp only [top, Bool.false_eq_true, if_false, JavaType.arguments, ne_eq, ite_not, agree]
      simp
  · simp at agree

/-- An array of primitives only admits the same, while its component agrees with any variable. -/
theorem isAssignable_array_of_agrees {p : Primitive} {other : JavaType}
    (agree : r.agrees (fun _ _ => some true) (.primitive p) other = some true) :
    r.isAssignable (.array (.primitive p)) (.array other) ↔
      ¬ PrimitiveArrays (.array (.primitive p)) (.array other) := by
  have plain : (JavaType.primitive p).isPrimitive = true := rfl
  cases other with
  | «variable» v =>
    exact iff_of_false (by simp [isAssignable, assigns, plain]) (not_not.mpr (.component p v))
  | primitive q =>
    obtain rfl : p = q := by simpa [agrees, JavaType.isVariable] using agree
    refine iff_of_true (r.isAssignable_refl _) ?_
    rintro (_ | ⟨⟨⟩⟩)
  | classType | array => simp [agrees, JavaType.isVariable] at agree

theorem isPrimitive_of_agrees {target source : JavaType} (closed : target.mentionsVariable = false)
    (agree : r.agrees (fun _ _ => some true) target source = some true)
    (primitive : source.isPrimitive = true) : target.isPrimitive = true := by
  cases source with
  | primitive => cases target <;> simp_all [agrees, JavaType.mentionsVariable, JavaType.isPrimitive,
      JavaType.primitive?]
  | _ => cases primitive

theorem agreeAll_singleton (accepts : String → JavaType → Option Bool) (target source : JavaType) :
    r.agreeAll accepts [target] [source] = r.agrees accepts target source := by
  simp only [agreeAll]
  split <;> simp_all

theorem agrees_variable (target : JavaType) (v : String) :
    r.agrees (fun _ _ => some true) target (.variable v) = some true := by
  cases target <;> simp [agrees, JavaType.isVariable]

/-- A type that agrees as a type argument can also be assigned, if it holds no variable and the two are
not arrays of a primitive and of a variable. -/
theorem isAssignable_of_agrees : ∀ target source : JavaType, target.mentionsVariable = false →
    r.agrees (fun _ _ => some true) target source = some true →
      (r.isAssignable target source ↔ ¬ PrimitiveArrays target source)
  | .variable _, _, closed, _ => by cases closed
  | .primitive p, source, _, agree => by
    refine iff_of_true ?_ (by rintro ⟨⟩)
    cases source with
    | «variable» => simp [isAssignable, assigns]
    | _ => simp_all [agrees, JavaType.isVariable, isAssignable, assigns]
  | .classType name arguments, source, _, agree => by
    refine iff_of_true ?_ (by rintro ⟨⟩)
    cases source with
    | «variable» => simp [isAssignable, assigns]
    | classType other others => exact isAssignable_of_agrees_class agree
    | primitive | array => simp [agrees] at agree
  | .array component, source, closed, agree => by
    cases source with
    | «variable» => exact iff_of_true (by simp [isAssignable, assigns]) (by rintro ⟨⟩)
    | array other =>
      rw [agrees] at agree
      rw [JavaType.mentionsVariable] at closed
      cases plain : component.isPrimitive with
      | true =>
        cases component with
        | primitive p => exact isAssignable_array_of_agrees agree
        | _ => cases plain
      | false =>
        have reference : other.isPrimitive = false := by
          by_contra primitive
          simp [isPrimitive_of_agrees closed agree (by simpa using primitive)] at plain
        rw [isAssignable_array_iff plain reference, primitiveArrays_array plain]
        exact isAssignable_of_agrees component other closed agree
    | primitive | classType => simp [agrees] at agree

end

/-- Seen as another class, a collection has the type arguments that it has itself; without any it has
none either, or a variable of its declaration. -/
structure KeepsElements (r : Registry) (c name : ClassName) : Prop where
  typed : ∀ element view, r.view? (.classType c [element]) name = some view →
    view.arguments = [element]
  raw : ∀ view, r.view? (.ofClass c) name = some view →
    view.arguments = [] ∨ ∃ v, view.arguments = [.variable v]

namespace KeepsElements

variable {r : Registry} {c name : ClassName} (keeps : r.KeepsElements c name) {target : JavaType}
include keeps

/-- A collection is taken for one of a closed type. -/
theorem isAssignable_iff {element : JavaType} (closed : target.mentionsVariable = false)
    (assignable : r.isAssignable (.classType name [target]) (.classType c [element])) :
    r.isAssignable target element ↔ ¬ PrimitiveArrays target element := by
  simp only [isAssignable, assigns, beq_iff_eq] at assignable
  split at assignable
  · next same =>
    obtain ⟨-, same⟩ := JavaType.classType.inj same
    obtain rfl : target = element := by simpa using same
    refine iff_of_true (r.isAssignable_refl _) fun arrays => ?_
    simp [arrays.mentionsVariable] at closed
  · split at assignable
    · cases assignable
    · next view found =>
      rw [keeps.typed element view found] at assignable
      exact isAssignable_of_agrees target element closed (by simpa [agreeAll_singleton] using assignable)

/-- A raw collection that is taken for one of some type is taken for one of any. -/
theorem isAssignable_raw (assignable : r.isAssignable (.classType name [target]) (.ofClass c))
    (other : JavaType) : r.isAssignable (.classType name [other]) (.ofClass c) := by
  simp only [isAssignable, assigns, beq_iff_eq, JavaType.ofClass, JavaType.boxed,
    JavaType.classType.injEq, reduceCtorEq, and_false, if_false] at assignable ⊢
  cases found : r.view? (.classType c []) name with
  | none => simp [found] at assignable
  | some view =>
    rcases keeps.raw view found with none | ⟨v, any⟩
    · simp [none]
    · simp [any, agreeAll_singleton, agrees_variable]

end KeepsElements

/-- The known collections are declared as they are at first. -/
structure DeclaresCollections (r : Registry) : Prop where
  iterable : r.get? Known.iterable = some (Preloaded.interfaceNamed Known.iterable ["T"])
  collection : r.get? Known.collection = some (Preloaded.interfaceNamed Known.collection ["E"]
    [.classType Known.iterable [Preloaded.E]])
  extended : ∀ c ∈ [Known.list, Known.set], r.get? c = some (Preloaded.interfaceNamed c ["E"]
    [.classType Known.collection [Preloaded.E]])

namespace DeclaresCollections

variable {r : Registry} (declares : r.DeclaresCollections) {c name : ClassName}
include declares

theorem directSupertypes_collection (arguments : List JavaType) :
    ∃ above, r.directSupertypes (.classType Known.collection arguments) =
        [.classType Known.iterable above] ∧
      r.directSupertypes (.classType Known.iterable above) = [] := by
  simp [directSupertypes, declares.collection, declares.iterable, Preloaded.interfaceNamed,
    TypeDeclaration.supertypes, JavaType.substitute]

theorem directSupertypes_extended (own : c ∈ [Known.list, Known.set]) :
    (∀ element, r.directSupertypes (.classType c [element]) =
      [.classType Known.collection [element]]) ∧
    r.directSupertypes (.ofClass c) = [.classType Known.collection [Preloaded.E]] := by
  simp [directSupertypes, declares.extended c own, Preloaded.interfaceNamed, JavaType.ofClass,
    TypeDeclaration.supertypes, TypeDeclaration.bindings, Preloaded.parameters, JavaType.substitute,
    JavaType.substituteAll, Preloaded.E, Bindings.value?]

/-- A list or a set is seen as itself or as a collection. -/
theorem arguments_of_view? {arguments above : List JavaType} {view : JavaType}
    (own : c ∈ [Known.list, Known.set]) (wanted : name ∈ [Known.collection, Known.list, Known.set])
    (direct : r.directSupertypes (.classType c arguments) = [.classType Known.collection above])
    (found : r.view? (.classType c arguments) name = some view) :
    view.arguments = arguments ∨ view.arguments = above := by
  have fixed : ∀ name ∈ [Known.collection, Known.list, Known.set],
      Known.isNamed Known.object name = false ∧ Known.iterable ≠ name := by decide +kernel
  have apart : ∀ c ∈ [Known.list, Known.set], Known.collection ≠ c ∧ Known.iterable ≠ c := by
    decide +kernel
  have apartIterable : Known.iterable ≠ Known.collection := by decide +kernel
  rw [view?, (fixed name wanted).1, Bool.false_and, if_neg Bool.false_ne_true] at found
  by_cases same : c = name
  · subst same
    rw [search_found rfl] at found
    exact .inl (Option.some.inj found ▸ rfl)
  · rw [search_enter rfl same List.not_mem_nil, direct, List.append_nil] at found
    by_cases collection : Known.collection = name
    · subst collection
      rw [search_found rfl] at found
      exact .inr (Option.some.inj found ▸ rfl)
    · -- What is left are the supertypes of a collection, which are neither lists nor sets.
      obtain ⟨iterable, supertypes, none⟩ := declares.directSupertypes_collection above
      rw [search_enter rfl collection (by simp [(apart c own).1]), supertypes, List.append_nil,
        search_enter rfl (fixed name wanted).2 (by simp [(apart c own).2, apartIterable]), none,
        List.append_nil, search] at found
      cases found

theorem keepsElements (own : c ∈ [Known.list, Known.set])
    (wanted : name ∈ [Known.collection, Known.list, Known.set]) : r.KeepsElements c name where
  typed element view found := by
    obtain ⟨direct, -⟩ := declares.directSupertypes_extended own
    simpa using declares.arguments_of_view? own wanted (direct element) found
  raw view found := by
    obtain ⟨-, direct⟩ := declares.directSupertypes_extended own
    rcases declares.arguments_of_view? own wanted direct found with none | any
    · exact .inl none
    · exact .inr ⟨"E", any⟩

end DeclaresCollections
end Registry
end Prewire.Types
