import Prewire.Proofs.Types.Bounds

/-! Bounds only restrict. What is assignable within some bounds is assignable within any of them alone, and
without bounds. A run within fewer bounds makes a part of the comparisons: where a bound is missing, the
variable accepts what the other run compares with the bound. -/
namespace Prewire.Java.Bindings

/-- All bounds of one map are bounds of the other. -/
def IsPartOf (fewer bounds : Bindings) : Prop :=
  ∀ name bound, fewer.value? name = some bound → bounds.value? name = some bound

theorem isPartOf_nil (bounds : Bindings) : IsPartOf [] bounds := fun _ _ found => nomatch found

end Prewire.Java.Bindings

namespace Prewire.Types.Registry

open Java

theorem answerRelation_accepted :
    AnswerRelation fun first other => first = some true → other = some true where
  decided _ := id
  next := by
    intro first other later laterOther accepted acceptedLater all
    -- All comparisons up to the last one have to agree.
    match first with
    | none | some false => cases all
    | some true =>
      rw [accepted rfl]
      exact acceptedLater all

section
variable {r : Registry} {fewer bounds : Bindings}

/-- One unfolding: a variable accepts within fewer bounds what it accepts within more. -/
theorem assigns_of_isPartOf (part : fewer.IsPartOf bounds)
    {within : JavaType → JavaType → Option Bool}
    (kept : ∀ bound source, within bound source = some true →
      r.assignsWithin fewer bound source = some true) (target source : JavaType)
    (accepted : r.assigns (withinBound bounds within) target source = some true) :
    r.assignsWithin fewer target source = some true := by
  rw [assignsWithin]
  refine assigns_related answerRelation_accepted target source (fun name _ source => ?_) accepted
  simp only [withinBound]
  cases found : fewer.value? name with
  | none => exact fun _ => rfl
  | some bound =>
    rw [part name bound found]
    exact kept bound source

theorem assignsWithin_of_isPartOf (part : fewer.IsPartOf bounds) {target source : JavaType}
    (accepted : r.assignsWithin bounds target source = some true) :
    r.assignsWithin fewer target source = some true := by
  -- The induction is on the run within all bounds, and its answer is fixed only in the end.
  refine assignsWithin.partial_correctness r bounds
    (fun target source answer => answer = true → r.assignsWithin fewer target source = some true)
    ?_ target source true accepted rfl
  rintro within kept target source _ answered rfl
  exact assigns_of_isPartOf part (fun bound source agreed => kept bound source true agreed rfl)
    target source answered

/-- What is accepted within bounds is accepted, with an answer that is reached, within a part of these
bounds and without any. -/
theorem assignsWithin_fewer (part : fewer.IsPartOf bounds) (target source : JavaType)
    (accepted : r.assignsWithin bounds target source = some true) :
    r.assignsWithin fewer target source = some true ∧ r.isAssignable target source := by
  refine ⟨assignsWithin_of_isPartOf part accepted, ?_⟩
  have unbounded : r.assignsWithin [] target source = some true :=
    assignsWithin_of_isPartOf (Bindings.isPartOf_nil bounds) accepted
  rw [← isAssignableWithin_nil, isAssignableWithin, unbounded]
  rfl

end

namespace BoundsSample

open ReachabilitySample

def outerBound : Bindings := [("T", applied "Second" (.array (.variable "U")))]

theorem isPartOf_outerBound : outerBound.IsPartOf bounds := by
  intro name bound found
  have listed := Bindings.mem_of_value? found
  obtain ⟨rfl, rfl⟩ : name = "T" ∧ bound = applied "Second" (.array (.variable "U")) := by
    simpa [outerBound] using listed
  decide +kernel

def nested (element : JavaType) : JavaType := applied "First" (applied "Second" (.array element))

end BoundsSample

open BoundsSample ReachabilitySample in
/-- `First<T>` takes `First<Second<X[]>>` within both bounds where `X` is a `First<String>`, and hence
within the first bound and without any. The first one alone also takes it where `X` is another type. -/
theorem assignsWithin_fewer_nested : outerBound.IsPartOf bounds ∧
    types.assignsWithin bounds (applied "First" (.variable "T"))
      (nested (applied "First" (.ofClass Known.string))) = some true ∧
    types.assignsWithin outerBound (applied "First" (.variable "T"))
      (nested (applied "First" (.ofClass Known.string))) = some true ∧
    types.isAssignable (applied "First" (.variable "T"))
      (nested (applied "First" (.ofClass Known.string))) ∧
    types.assignsWithin bounds (applied "First" (.variable "T")) (nested (.ofClass Known.string)) =
      some false ∧
    types.assignsWithin outerBound (applied "First" (.variable "T")) (nested (.ofClass Known.string)) =
      some true := by
  have both : types.assignsUpTo bounds 3 (applied "First" (.variable "T"))
      (nested (applied "First" (.ofClass Known.string))) = some true := by decide +kernel
  have refused : types.assignsUpTo bounds 3 (applied "First" (.variable "T"))
      (nested (.ofClass Known.string)) = some false := by decide +kernel
  have accepted : types.assignsUpTo outerBound 2 (applied "First" (.variable "T"))
      (nested (.ofClass Known.string)) = some true := by decide +kernel
  obtain ⟨within, without⟩ := assignsWithin_fewer isPartOf_outerBound _ _ (assignsWithin_of_upTo both)
  exact ⟨isPartOf_outerBound, assignsWithin_of_upTo both, within, without,
    assignsWithin_of_upTo refused, assignsWithin_of_upTo accepted⟩

end Prewire.Types.Registry
