import Prewire.Proofs.Plan.Overload

/-! Nulls among the arguments. A null that no type is declared for counts as an argument of unknown type,
which fits any parameter, so that a choice can settle on a primitive one. It does not, exactly where the
same executable is chosen among those that have a reference type for each null. -/
namespace Prewire.Plan

open Java Types Beans

def isUntypedNull : ArgumentValue → Bool
  | ⟨.null, none⟩ => true
  | _ => false

def holdsNulls (d : BeanDefinition) (e : Executable) : Bool :=
  (e.parameterTypes.zip d.arguments.ordered).all fun (parameter, argument) =>
    !(isUntypedNull argument && parameter.isPrimitive)

section
variable {f : BeanFactory} {d : BeanDefinition} {owner : ClassName} {candidates : List Executable}
variable {e : Executable}

theorem isUntypedNull_iff {argument : ArgumentValue} :
    isUntypedNull argument ↔ argument = ⟨.null, none⟩ := by
  obtain ⟨value, type⟩ := argument
  cases value <;> cases type <;> simp [isUntypedNull]

/-- Position by position. -/
theorem holdsNulls_iff : holdsNulls d e ↔
    ∀ (i : Nat) parameter, e.parameterTypes[i]? = some parameter →
      d.arguments.ordered[i]? = some ⟨.null, none⟩ → parameter.isPrimitive = false := by
  rw [holdsNulls, List.all_eq_true]
  constructor
  · intro all i parameter atParameter atArgument
    have paired : (parameter, (⟨.null, none⟩ : ArgumentValue)) ∈
        e.parameterTypes.zip d.arguments.ordered := by
      refine List.mem_of_getElem? (i := i) ?_
      simp [List.getElem?_zip_eq_some, atParameter, atArgument]
    simpa [isUntypedNull] using all _ paired
  · rintro positions ⟨parameter, argument⟩ paired
    obtain ⟨i, found⟩ := List.mem_iff_getElem?.mp paired
    obtain ⟨atParameter, atArgument⟩ := List.getElem?_zip_eq_some.mp found
    cases null : isUntypedNull argument with
    | false => simp [null]
    | true =>
      obtain rfl := isUntypedNull_iff.mp null
      simp [positions i parameter atParameter atArgument]

/-- A choice by the arguments leaves no null at a primitive parameter if and only if it is the same
among the candidates that have a reference type for each null. -/
theorem detect_holdsNulls_iff (contested : Contested f d owner candidates)
    (detected : detect f d = .ok (some e)) :
    (∀ (i : Nat) parameter, e.parameterTypes[i]? = some parameter →
      d.arguments.ordered[i]? = some ⟨.null, none⟩ → parameter.isPrimitive = false) ↔
    select f.registry owner (f.argumentTypes d) (candidates.filter (holdsNulls d)) =
      .ok (some e) := by
  rw [contested.detect_eq] at detected
  rw [← holdsNulls_iff, select_filter_iff _ detected]

end

namespace NullSample

def owner : ClassName := ⟨"com.example", ["Sample"]⟩

def constructor (first second : JavaType) : Executable where
  declaringClass := owner
  kind := .constructor
  parameters := [{ name := "first", type := first }, { name := "second", type := second }]

def byCount : Executable := constructor (.primitive .int) (.ofClass Known.string)
def byOwner : Executable := constructor (.ofClass Known.object) (.ofClass Primitive.int.boxed)

def container : BeanFactory where
  registry := ⟨[{ name := owner, constructors := [byCount, byOwner] }]⟩

def definition (value : BeanValue) : BeanDefinition :=
  { BeanDefinition.blank with
    beanClass := some owner, arguments := ⟨[], [⟨.null, none⟩, ⟨value, none⟩]⟩ }

theorem contested (value : BeanValue) :
    Contested container (definition value) owner [byCount, byOwner] := by
  have known : container.registry.get? owner =
      some { name := owner, constructors := [byCount, byOwner] } := rfl
  exact .constructors rfl rfl known (by decide +kernel) rfl (by decide) (by decide +kernel)

end NullSample

open NullSample in
/-- The number 42 leaves only the constructor whose first parameter is an object. -/
theorem detect_holdsNulls_number :
    detect container (definition (.int 42)) = .ok (some byOwner) ∧
    ∀ (i : Nat) parameter, byOwner.parameterTypes[i]? = some parameter →
      (definition (.int 42)).arguments.ordered[i]? = some ⟨.null, none⟩ →
        parameter.isPrimitive = false := by
  have detected : detect container (definition (.int 42)) = .ok (some byOwner) := by decide +kernel
  exact ⟨detected, (detect_holdsNulls_iff (contested _) detected).mpr (by decide +kernel)⟩

open NullSample in
/-- With a text the null goes to the parameter of type `int`. -/
theorem detect_null_at_primitive :
    Contested container (definition (.string "42")) owner [byCount, byOwner] ∧
    detect container (definition (.string "42")) = .ok (some byCount) ∧
    (definition (.string "42")).arguments.ordered[0]? = some ⟨.null, none⟩ ∧
    byCount.parameterTypes[0]? = some (.primitive .int) :=
  ⟨contested _, by decide +kernel, rfl, rfl⟩

end Prewire.Plan
