import Prewire.Proofs.Beans.Values

/-! Resolving references in values. Arrays, lists and sets are resolved element by element, a reference
either becomes a whole literal or stays, and nothing else changes. A literal stays as it is, so that what
took the place of a reference is not touched a second time. -/
namespace Prewire.Beans.BeanFactory

open Java Types BeanValue

/-- Whether a part of a value stands for a literal or does not matter for that: it is neither an inner bean
nor an instance, and if it is a reference, then one to a singleton that is a literal. -/
def StandsForLiteral (f : BeanFactory) : BeanValue → Prop
  | .inner _ | .opaqueInstance _ => False
  | .reference name => ∃ value, f.singleton? name = some value ∧ value.isLiteral
  | _ => True

section
variable {f : BeanFactory} {v : BeanValue} {elements : List BeanValue} {name : String}

theorem resolveAll_eq_map (f : BeanFactory) (values : List BeanValue) :
    resolveAll f values = values.map f.resolve := by
  induction values with
  | nil => rfl
  | cons v rest ih => rw [resolveAll, ih, List.map_cons]

theorem resolve_of_elements (known : v.elements? = some elements) :
    f.resolve v = v.withElements (elements.map f.resolve) := by
  rw [← resolveAll_eq_map]
  cases v with
  | array | list | set => rw [← Option.some.inj known, resolve]; rfl
  | _ => cases known

/-- What is neither a reference nor has elements stays. -/
theorem resolve_of_single (single : v.elements? = none) (other : ∀ name, v ≠ .reference name) :
    f.resolve v = v := by
  cases v with
  | reference name => exact absurd rfl (other name)
  | array | list | set => cases single
  | _ => rfl

/-- A reference to a literal singleton becomes that literal, and any other reference stays. -/
theorem resolve_reference (f : BeanFactory) (name : String) :
    (∃ value, f.singleton? name = some value ∧ value.isLiteral ∧
        f.resolve (.reference name) = value) ∨
      (¬ f.StandsForLiteral (.reference name)) ∧ f.resolve (.reference name) = .reference name := by
  rw [resolve, StandsForLiteral]
  cases present : f.singleton? name with
  | none => exact .inr ⟨by simp, rfl⟩
  | some value =>
    by_cases literal : value.isLiteral
    · exact .inl ⟨value, rfl, literal, if_pos literal⟩
    · exact .inr ⟨by simpa using literal, if_neg literal⟩

theorem resolve_of_isLiteral (literal : v.isLiteral) : f.resolve v = v := by
  induction v using elements_induction with
  | collection v elements known ih =>
    have each := (isLiteral_of_elements known).mp literal
    have same : elements.map f.resolve = elements := calc
      elements.map f.resolve = elements.map id :=
        List.map_congr_left fun e member => ih e member (each e member)
      _ = elements := List.map_id elements
    rw [resolve_of_elements known, same, withElements_self known]
  | single v single =>
    refine resolve_of_single single ?_
    rintro name rfl
    simp [isLiteral] at literal

theorem resolve_resolve (f : BeanFactory) (v : BeanValue) : f.resolve (f.resolve v) = f.resolve v := by
  induction v using elements_induction with
  | collection v elements known ih =>
    have same : (elements.map f.resolve).map f.resolve = elements.map f.resolve := by
      rw [List.map_map]
      exact List.map_congr_left ih
    rw [resolve_of_elements known, resolve_of_elements (elements?_withElements known), same,
      withElements_withElements]
  | single v single =>
    by_cases other : ∃ name, v = .reference name
    · obtain ⟨name, rfl⟩ := other
      obtain ⟨value, -, literal, found⟩ | ⟨-, stays⟩ := f.resolve_reference name
      · rw [found, resolve_of_isLiteral literal]
      · rw [stays, stays]
    · have stays : f.resolve v = v := resolve_of_single single fun name same => other ⟨name, same⟩
      rw [stays, stays]

theorem isLiteral_resolve_iff :
    (f.resolve v).isLiteral ↔ ∀ part ∈ v.parts, f.StandsForLiteral part := by
  induction v using elements_induction with
  | collection v elements known ih =>
    have whole : f.StandsForLiteral v := by
      cases v with
      | array | list | set => trivial
      | _ => cases known
    rw [resolve_of_elements known, isLiteral_of_elements (elements?_withElements known),
      parts_of_elements known, List.forall_mem_cons, List.forall_mem_map]
    simp only [whole, true_and, mem_partsOfAll]
    constructor
    · rintro literal part ⟨e, member, within⟩
      exact (ih e member).mp (literal e member) part within
    · exact fun stand e member => (ih e member).mpr fun part within => stand part ⟨e, member, within⟩
  | single v single =>
    rw [parts_of_single single, List.forall_mem_singleton]
    cases v with
    | reference name =>
      obtain ⟨value, present, literal, found⟩ | ⟨unknown, stays⟩ := f.resolve_reference name
      · rw [found]
        exact iff_of_true literal ⟨value, present, literal⟩
      · rw [stays]
        exact iff_of_false (by simp [isLiteral]) unknown
    | array | list | set => cases single
    | inner | opaqueInstance => exact iff_of_false (by simp [resolve, isLiteral]) id
    | _ => exact iff_of_true rfl trivial

/-- A singleton that is a literal gives a reference its type, whatever the limit on dependencies. -/
theorem valueTypeAnswer_reference {value : BeanValue} (present : f.singleton? name = some value)
    (literal : value.isLiteral) : f.valueTypeAnswer (.reference name) = some value.literalType? := by
  rw [valueTypeAnswer, valueTypeBy, beanTypeAnswer, dependencyLimit, beanTypeWithin, present]
  cases value with
  | reference | inner | opaqueInstance => simp [isLiteral] at literal
  | _ => rfl

theorem valueTypeAnswer_resolve_reference (f : BeanFactory) (name : String) :
    f.valueTypeAnswer (f.resolve (.reference name)) = f.valueTypeAnswer (.reference name) := by
  obtain ⟨value, present, literal, found⟩ | ⟨-, stays⟩ := f.resolve_reference name
  · rw [found, valueTypeAnswer_of_isLiteral literal f, valueTypeAnswer_reference present literal]
  · rw [stays]

end

/-- To resolve a value once is enough, and a literal stays as it is. The result is a literal if and only if
no inner bean, no instance and no reference other than to a literal singleton occurs in the value, at any
depth of arrays, lists and sets. A reference keeps its type, and where its type depends on itself there is
no answer before and after. -/
theorem resolve_closure (f : BeanFactory) (v : BeanValue) :
    f.resolve (f.resolve v) = f.resolve v ∧
    (v.isLiteral → f.resolve v = v) ∧
    ((f.resolve v).isLiteral ↔ ∀ part ∈ v.parts, f.StandsForLiteral part) ∧
    ∀ name, v = .reference name →
      f.valueTypeAnswer (f.resolve v) = f.valueTypeAnswer v ∧
        f.valueType? (f.resolve v) = f.valueType? v := by
  refine ⟨f.resolve_resolve v, resolve_of_isLiteral, isLiteral_resolve_iff, ?_⟩
  rintro name rfl
  have same := f.valueTypeAnswer_resolve_reference name
  exact ⟨same, congrArg Option.join same⟩

namespace ResolutionSample

def beans : BeanFactory where
  registry := ⟨[]⟩
  singletons := [("limits", .list [.int 3, .null]), ("alias", .reference "limits"),
    ("handle", .opaqueInstance (.ofClass ⟨"com.example", ["Handle"]⟩))]

def known : BeanValue := .set [.reference "limits", .array (.ofClass Known.list) [.reference "limits"]]

def unknown : BeanValue := .list [.reference "limits", .set [.reference "alias"]]

end ResolutionSample

open ResolutionSample in
/-- A singleton that is a reference itself is no literal, so that a reference to it stays. -/
theorem resolve_closure_nested :
    (beans.resolve known).isLiteral = true ∧ (beans.resolve unknown).isLiteral = false ∧
      beans.resolve (beans.resolve unknown) = beans.resolve unknown ∧
      beans.resolve (.list [.int 3, .null]) = .list [.int 3, .null] ∧
      beans.valueType? (beans.resolve (.reference "limits")) = some (.ofClass Known.list) := by
  obtain ⟨again, -, literal, -⟩ := resolve_closure beans unknown
  have stays : ¬ beans.StandsForLiteral (.reference "alias") := by
    rintro ⟨value, present, literal⟩
    obtain rfl : .reference "limits" = value := Option.some.inj present
    cases literal
  have unsolved : (beans.resolve unknown).isLiteral = false := by
    rw [← Bool.not_eq_true, literal]
    exact fun all => stays (all _ (by simp [unknown, parts, partsOfAll]))
  refine ⟨rfl, unsolved, again, (resolve_closure beans _).2.1 rfl, ?_⟩
  exact ((resolve_closure beans _).2.2.2 "limits" rfl).2.trans rfl

end Prewire.Beans.BeanFactory
