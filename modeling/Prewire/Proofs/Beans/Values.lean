import Prewire.Beans.Factory

/-! Values by their elements. Arrays, lists and sets have elements, all other values are single; what holds
of values at any depth is proved by induction over elements. -/
namespace Prewire.Beans.BeanValue

def elements? : BeanValue → Option (List BeanValue)
  | .array _ elements | .list elements | .set elements => some elements
  | _ => none

def withElements (elements : List BeanValue) : BeanValue → BeanValue
  | .array component _ => .array component elements
  | .list _ => .list elements
  | .set _ => .set elements
  | v => v

mutual
/-- The value and its elements at any depth, but nothing inside of inner beans. -/
def parts : BeanValue → List BeanValue
  | .array component elements => .array component elements :: partsOfAll elements
  | .list elements => .list elements :: partsOfAll elements
  | .set elements => .set elements :: partsOfAll elements
  | value => [value]
def partsOfAll : List BeanValue → List BeanValue
  | [] => []
  | v :: vs => v.parts ++ partsOfAll vs
end

theorem mem_partsOfAll {part : BeanValue} {values : List BeanValue} :
    part ∈ partsOfAll values ↔ ∃ v ∈ values, part ∈ v.parts := by
  induction values with
  | nil => simp [partsOfAll]
  | cons v vs ih => simp [partsOfAll, ih]

section
variable {v : BeanValue} {elements others : List BeanValue}

theorem sizeOf_lt_of_mem_elements (known : v.elements? = some elements) {e : BeanValue}
    (member : e ∈ elements) : sizeOf e < sizeOf v := by
  have smaller := List.sizeOf_lt_of_mem member
  cases v with
  | array | list | set =>
    obtain rfl := Option.some.inj known
    simp only [array.sizeOf_spec, list.sizeOf_spec, set.sizeOf_spec]
    omega
  | _ => cases known

/-- Induction over the elements of arrays, lists and sets. -/
theorem elements_induction {motive : BeanValue → Prop}
    (collection : ∀ v elements, v.elements? = some elements → (∀ e ∈ elements, motive e) → motive v)
    (single : ∀ v, v.elements? = none → motive v) (v : BeanValue) : motive v := by
  cases known : v.elements? with
  | none => exact single v known
  | some elements =>
    exact collection v elements known fun e member => elements_induction collection single e
termination_by sizeOf v
decreasing_by exact sizeOf_lt_of_mem_elements known member

theorem elements?_withElements (known : v.elements? = some elements) :
    (v.withElements others).elements? = some others := by
  cases v <;> first | rfl | cases known

theorem withElements_withElements (v : BeanValue) :
    (v.withElements others).withElements elements = v.withElements elements := by
  cases v <;> rfl

theorem withElements_self (known : v.elements? = some elements) : v.withElements elements = v := by
  cases v with
  | array | list | set => rw [← Option.some.inj known]; rfl
  | _ => rfl

theorem allLiteral_iff : allLiteral elements ↔ ∀ e ∈ elements, e.isLiteral := by
  induction elements with
  | nil => simp [allLiteral]
  | cons e rest ih => simp [allLiteral, ih]

/-- An array, a list or a set is a literal where all its elements are. -/
theorem isLiteral_of_elements (known : v.elements? = some elements) :
    v.isLiteral ↔ ∀ e ∈ elements, e.isLiteral := by
  rw [← allLiteral_iff]
  cases v with
  | array | list | set => rw [← Option.some.inj known, isLiteral]
  | _ => cases known

theorem parts_of_elements (known : v.elements? = some elements) : v.parts = v :: partsOfAll elements := by
  cases v with
  | array | list | set => rw [← Option.some.inj known, parts]
  | _ => cases known

theorem parts_of_single (single : v.elements? = none) : v.parts = [v] := by
  cases v with
  | array | list | set => cases single
  | _ => rfl

/-- All parts of a literal are literals. -/
theorem isLiteral_of_part {part : BeanValue} (literal : v.isLiteral) (within : part ∈ v.parts) :
    part.isLiteral := by
  induction v using elements_induction with
  | collection v elements known ih =>
    rw [parts_of_elements known] at within
    rcases List.mem_cons.mp within with rfl | deeper
    · exact literal
    · obtain ⟨e, member, within⟩ := mem_partsOfAll.mp deeper
      exact ih e member ((isLiteral_of_elements known).mp literal e member) within
  | single v single =>
    rw [parts_of_single single, List.mem_singleton] at within
    exact within ▸ literal

/-- The type of a literal asks for no bean. -/
theorem valueTypeAnswer_of_isLiteral (literal : v.isLiteral) (f : BeanFactory) :
    f.valueTypeAnswer v = some v.literalType? := by
  cases v with
  | reference | inner | opaqueInstance => simp [isLiteral] at literal
  | _ => rfl

end

end Prewire.Beans.BeanValue
