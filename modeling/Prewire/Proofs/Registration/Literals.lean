import Prewire.Proofs.Registration.ValueClasses

/-! Which values are written. A value is refused for the first of its parts that no source code denotes.
Literals have no such part, and neither have arguments that are written out, so how an instance is
supplied never fails. -/
namespace Prewire.Beans.BeanValue

open Java

/-- Why a value has no source form of its own, where it has none. -/
def unwritable? : BeanValue → Option Unwritable
  | .inner d => some (.innerBean d.beanClass)
  | .opaqueInstance type => some (.instance type)
  | _ => none

theorem unwritable?_of_isLiteral {v : BeanValue} (literal : v.isLiteral) : v.unwritable? = none := by
  cases v with
  | inner | opaqueInstance => simp [isLiteral] at literal
  | _ => rfl

end Prewire.Beans.BeanValue

namespace Prewire.Registration

open Java Types Beans Plan BeanValue

/-- Elements are written one by one, and the first that fails decides. -/
theorem failure?_mapM {write : BeanValue → Except Failure Expression} {vs : List BeanValue}
    (each : ∀ v ∈ vs, failure? (write v) = (v.parts.findSome? unwritable?).map .unsupportedValue) :
    failure? (vs.mapM write) = ((partsOfAll vs).findSome? unwritable?).map .unsupportedValue := by
  induction vs with
  | nil => rfl
  | cons v rest ih =>
    rw [List.forall_mem_cons] at each
    rw [List.mapM_cons, failure?_bind_bind, each.1, ih each.2, partsOfAll, List.findSome?_append]
    cases v.parts.findSome? unwritable? <;> rfl

/-- What a value is refused for. -/
theorem failure?_plainExpression (value : BeanValue) (type : Option JavaType) :
    failure? (plainExpression value type) =
      (value.parts.findSome? unwritable?).map .unsupportedValue := by
  induction value using elements_induction generalizing type with
  | collection v elements known ih =>
    have own : v.unwritable? = none := by
      cases v with
      | inner | opaqueInstance => cases known
      | _ => rfl
    have each : failure? (elements.mapM (valueExpression refuseInner · (elementTarget v type))) = _ :=
      failure?_mapM fun e member => ih e member _
    rw [plainExpression, valueExpression_of_elements known, failure?_bind_pure, each,
      parts_of_elements known, List.findSome?_cons, own]
  | single v single =>
    rw [parts_of_single single]
    cases v with
    | array | list | set => cases single
    | _ => rw [plainExpression, valueExpression]; rfl

theorem plainExpression_ok {value : BeanValue} (literal : value.isLiteral) (type : Option JavaType) :
    ∃ e, plainExpression value type = .ok e := by
  have written : value.parts.findSome? unwritable? = none :=
    List.findSome?_eq_none_iff.mpr fun _ within =>
      unwritable?_of_isLiteral (isLiteral_of_part literal within)
  apply exists_ok_of_failure?
  rw [failure?_plainExpression, written]
  rfl

theorem literalArguments_total {values : List BeanValue} (literal : ∀ v ∈ values, v.isLiteral)
    (parameters : List JavaType) : ∃ es, literalArguments values parameters = .ok es := by
  fun_induction literalArguments values parameters with
  | case1 v vs parameter parameters ih =>
    obtain ⟨first, one⟩ := plainExpression_ok (literal v List.mem_cons_self) (some parameter)
    obtain ⟨rest, others⟩ := ih fun v member => literal v (List.mem_cons_of_mem _ member)
    exact ⟨first :: rest, by rw [one, others]; rfl⟩
  | case2 => exact ⟨[], rfl⟩

theorem directArguments_total (f : BeanFactory) (d : BeanDefinition) (creator : Creator) :
    ∃ written, directArguments f d creator = .ok written := by
  rw [directArguments]
  split
  · exact ⟨_, rfl⟩
  split
  · exact ⟨_, rfl⟩
  · next fits =>
    simp only [Bool.or_eq_true, not_or, Bool.not_eq_true, Bool.not_eq_false', List.all_eq_true] at fits
    obtain ⟨es, written⟩ := literalArguments_total fits.1.2 creator.executable.parameterTypes
    exact ⟨some es, by rw [written]; rfl⟩

theorem supplierCall_total (f : BeanFactory) (d : BeanDefinition) (plan : BeanPlan)
    (creator : Creator) : ∃ supply, supplierCall f d plan creator = .ok supply := by
  obtain ⟨written, direct⟩ := directArguments_total f d creator
  exact ⟨_, by rw [supplierCall, direct]; rfl⟩

/-- Without a writer for inner beans a value is refused if and only if the definition of an inner bean or
an instance occurs in it, at any depth of arrays, lists and sets, and the failure names the first such
part from left to right. So all literals are written, and to write out arguments never fails. -/
theorem plainExpression_error_iff (value : BeanValue) (type : Option JavaType) :
    (∀ failure, plainExpression value type = .error failure ↔
      ∃ before part after reason, value.parts = before ++ part :: after ∧
        (∀ earlier ∈ before, earlier.unwritable? = none) ∧ part.unwritable? = some reason ∧
        failure = .unsupportedValue reason) ∧
    ((∃ failure, plainExpression value type = .error failure) ↔
      ∃ part ∈ value.parts, (∃ d, part = .inner d) ∨ ∃ type, part = .opaqueInstance type) ∧
    (value.isLiteral → ∃ e, plainExpression value type = .ok e) ∧
    ∀ f d creator, ∃ arguments, directArguments f d creator = .ok arguments := by
  have refused (failure : Failure) : plainExpression value type = .error failure ↔
      ∃ reason, value.parts.findSome? unwritable? = some reason ∧ failure = .unsupportedValue reason := by
    rw [← failure?_eq_some, failure?_plainExpression, Option.map_eq_some_iff]
    simp only [eq_comm]
  have kind (part : BeanValue) : part.unwritable?.isSome ↔
      (∃ d, part = .inner d) ∨ ∃ type, part = .opaqueInstance type := by
    cases part <;> simp [unwritable?]
  refine ⟨fun failure => (refused failure).trans ?_, ?_, fun literal => plainExpression_ok literal type,
    directArguments_total⟩
  · simp only [List.findSome?_eq_some_iff]
    constructor
    · rintro ⟨reason, ⟨before, part, after, whole, found, earlier⟩, rfl⟩
      exact ⟨before, part, after, reason, whole, earlier, found, rfl⟩
    · rintro ⟨before, part, after, reason, whole, earlier, found, rfl⟩
      exact ⟨reason, ⟨before, part, after, whole, found, earlier⟩, rfl⟩
  · simp only [refused, ← kind]
    constructor
    · rintro ⟨_, reason, found, rfl⟩
      obtain ⟨part, within, found⟩ := List.exists_of_findSome?_eq_some found
      exact ⟨part, within, by rw [found]; rfl⟩
    · rintro ⟨part, within, found⟩
      obtain ⟨reason, found⟩ := Option.isSome_iff_exists.mp
        (List.findSome?_isSome_iff.mpr ⟨part, within, found⟩)
      exact ⟨_, reason, found, rfl⟩

namespace RefusedSample

def handle : JavaType := .ofClass ⟨"com.example", ["Handle"]⟩

def part : BeanDefinition := { BeanDefinition.blank with beanClass := some ⟨"com.example", ["Part"]⟩ }

def mixed : BeanValue :=
  .list [.set [.reference "other", .array handle [.null, .opaqueInstance handle]], .inner part]

def literal : BeanValue := .list [.array (.ofClass Known.string) [.string "a", .null], .set []]

end RefusedSample

open RefusedSample in
/-- The instance comes first. -/
theorem plainExpression_error_mixed :
    plainExpression mixed none = .error (.unsupportedValue (.instance handle)) ∧
      literal.isLiteral = true ∧ ∃ e, plainExpression literal none = .ok e := by
  have first : mixed.parts = [mixed, .set [.reference "other", .array handle [.null,
      .opaqueInstance handle]], .reference "other", .array handle [.null, .opaqueInstance handle],
      .null] ++ .opaqueInstance handle :: [.inner part] := rfl
  have refused := (plainExpression_error_iff mixed none).1 (.unsupportedValue (.instance handle))
  have literal : literal.isLiteral = true := rfl
  exact ⟨refused.mpr ⟨_, _, _, _, first, by simp [unwritable?, mixed], rfl, rfl⟩, literal,
    (plainExpression_error_iff _ none).2.2.1 literal⟩

end Prewire.Registration
