import Prewire.Plan.Matching
import Mathlib.Data.List.Forall2

/-! Choice by tiers. The tier of an executable is the first at which it takes the arguments; the
search tier by tier comes to the candidates whose tier is the least, whatever their order. -/
namespace Prewire.Plan

open Java Types

section
variable (r : Registry) (arguments : List (Option JavaType))

/-- An executable takes the arguments at a tier: it has a parameter for each of them, and each whose
type is known fits the parameter at its position. -/
def Takes (tier : Tier) (e : Executable) : Prop :=
  List.Forall₂ (fun parameter argument => ∀ type ∈ argument, fits r tier parameter type = true)
    e.parameterTypes arguments

instance (tier : Tier) (e : Executable) : Decidable (Takes r arguments tier e) :=
  inferInstanceAs (Decidable (List.Forall₂ _ _ _))

def tier? (e : Executable) : Option Tier := Tier.all.find? fun tier => Takes r arguments tier e

def hasLeastTier (candidates : List Executable) (e : Executable) : Bool :=
  (tier? r arguments e).any fun tier =>
    candidates.all fun other => (tier? r arguments other).all (·.includes tier)

def ofLeastTier (candidates : List Executable) : List Executable :=
  candidates.filter (hasLeastTier r arguments candidates)

/-- What a choice among candidates comes to: none of them has a tier, one alone has the least, or
several have it. -/
inductive Chosen (owner : ClassName) (candidates : List Executable) :
    Except Failure (Option Executable) → Prop
  | none (unfit : ∀ e ∈ candidates, tier? r arguments e = none) : Chosen owner candidates (.ok none)
  | one (e : Executable) (best : ofLeastTier r arguments candidates = [e]) :
    Chosen owner candidates (.ok (some e))
  | several (tied : 2 ≤ (ofLeastTier r arguments candidates).length) :
    Chosen owner candidates
      (.error (.ambiguousExecutable owner arguments (ofLeastTier r arguments candidates)))

end

section
variable {r : Registry} {arguments : List (Option JavaType)}

theorem fits_mono {tier lower : Tier} (above : tier.includes lower) {parameter type : JavaType}
    (fitting : fits r lower parameter type) : fits r tier parameter type := by
  cases lower <;> cases tier <;> simp_all [fits, Tier.includes, Tier.rank]

/-- Each tier takes what the one before takes. -/
theorem Takes.mono {tier lower : Tier} (above : tier.includes lower) {e : Executable}
    (taken : Takes r arguments lower e) : Takes r arguments tier e :=
  taken.imp fun _ _ fitting type known => fits_mono above (fitting type known)

/-- Position by position. -/
theorem Takes.fits {tier : Tier} {e : Executable} {i : Nat} {parameter type : JavaType}
    (taken : Takes r arguments tier e) (atParameter : e.parameterTypes[i]? = some parameter)
    (atArgument : arguments[i]? = some (some type)) : fits r tier parameter type := by
  obtain ⟨below, rfl⟩ := List.getElem?_eq_some_iff.mp atParameter
  obtain ⟨bound, found⟩ := List.getElem?_eq_some_iff.mp atArgument
  exact (List.forall₂_iff_get.mp taken).2 i below bound type found

theorem allFit_iff {tier : Tier} {parameters : List JavaType}
    (counts : parameters.length = arguments.length) :
    allFit r tier parameters arguments ↔
      List.Forall₂ (fun parameter argument => ∀ type ∈ argument, fits r tier parameter type = true)
        parameters arguments := by
  induction parameters generalizing arguments with
  | nil =>
    cases arguments with
    | nil => simp [allFit]
    | cons => simp at counts
  | cons parameter parameters ih =>
    cases arguments with
    | nil => simp at counts
    | cons argument arguments =>
      simp [allFit, ih (by simpa using counts), Option.all_eq_true]

/-- The candidates that are asked at a tier and accept are those that take the arguments. -/
theorem filter_accepts (tier : Tier) (candidates : List Executable) :
    (candidates.filter (·.parameterCount = arguments.length)).filter (accepts r arguments tier) =
      candidates.filter fun e => Takes r arguments tier e := by
  rw [List.filter_filter]
  apply List.filter_congr
  intro e _
  have same : e.parameterTypes.length = e.parameterCount := by
    simp [Executable.parameterTypes, Executable.parameterCount]
  apply Bool.eq_iff_iff.mpr
  rw [Bool.and_eq_true, decide_eq_true_eq, decide_eq_true_eq, accepts, Takes]
  constructor
  · rintro ⟨accepted, counts⟩
    exact (allFit_iff (same.trans counts)).mp accepted
  · intro taken
    exact ⟨(allFit_iff taken.length_eq).mpr taken, same.symm.trans taken.length_eq⟩

theorem tier?_eq_some {e : Executable} {tier : Tier} :
    tier? r arguments e = some tier ↔
      Takes r arguments tier e ∧ ∀ lower, lower.rank < tier.rank → ¬ Takes r arguments lower e := by
  have lowest : (∀ lower : Tier, lower.rank < tier.rank → ¬ Takes r arguments lower e) ↔
      (0 < tier.rank → ¬ Takes r arguments .assignable e) ∧
        (1 < tier.rank → ¬ Takes r arguments .element e) := by
    constructor
    · intro lowest
      exact ⟨lowest .assignable, lowest .element⟩
    · rintro ⟨first, second⟩ lower below
      cases lower with
      | assignable => exact first below
      | element => exact second below
      | conversion => cases tier <;> simp [Tier.rank] at below
  rw [lowest]
  by_cases first : Takes r arguments .assignable e
  · cases tier <;> simp [tier?, Tier.all, Tier.rank, first]
  · by_cases second : Takes r arguments .element e
    · cases tier <;> simp [tier?, Tier.all, Tier.rank, first, second]
    · cases tier <;> simp [tier?, Tier.all, Tier.rank, first, second]

theorem tier?_eq_none {e : Executable} :
    tier? r arguments e = none ↔ ∀ tier, ¬ Takes r arguments tier e := by
  simp only [tier?, List.find?_eq_none, decide_eq_true_eq]
  constructor
  · intro untaken tier
    exact untaken tier (by cases tier <;> simp [Tier.all])
  · intro untaken tier _
    exact untaken tier

theorem hasLeastTier_iff {candidates : List Executable} {e : Executable} :
    hasLeastTier r arguments candidates e ↔ ∃ tier, tier? r arguments e = some tier ∧
      ∀ other ∈ candidates, ∀ higher, tier? r arguments other = some higher →
        tier.rank ≤ higher.rank := by
  simp [hasLeastTier, Option.any_eq_true, List.all_eq_true, Option.all_eq_true, Tier.includes]

/-- A tier that takes some candidate, where no lower one takes any, is the least. -/
theorem ofLeastTier_eq_filter {candidates : List Executable} {tier : Tier}
    (taken : ∃ e ∈ candidates, Takes r arguments tier e)
    (untaken : ∀ lower : Tier, lower.rank < tier.rank →
      ∀ e ∈ candidates, ¬ Takes r arguments lower e) :
    ofLeastTier r arguments candidates = candidates.filter fun e => Takes r arguments tier e := by
  have least {e : Executable} (member : e ∈ candidates) (taken : Takes r arguments tier e) :
      tier? r arguments e = some tier :=
    tier?_eq_some.mpr ⟨taken, fun lower below => untaken lower below e member⟩
  apply List.filter_congr
  intro e member
  rw [Bool.eq_iff_iff, hasLeastTier_iff, decide_eq_true_eq]
  constructor
  · rintro ⟨own, found, lowest⟩
    obtain ⟨other, present, takesOther⟩ := taken
    have notAbove := lowest other present tier (least present takesOther)
    have takesOwn := (tier?_eq_some.mp found).1
    have notBelow : ¬ own.rank < tier.rank := fun below => untaken own below e member takesOwn
    exact takesOwn.mono (by simp [Tier.includes]; omega)
  · intro takesIt
    refine ⟨tier, least member takesIt, fun other present higher found => ?_⟩
    have takesOther := (tier?_eq_some.mp found).1
    exact Nat.not_lt.mp fun below => untaken higher below other present takesOther

/-- The search through ascending tiers, where no tier outside the list takes any candidate. -/
theorem selectAmong_chosen (owner : ClassName) (candidates : List Executable) (tiers : List Tier)
    (ascending : tiers.Pairwise fun a b => a.rank < b.rank)
    (failed : ∀ tier ∉ tiers, ∀ e ∈ candidates, ¬ Takes r arguments tier e) :
    Chosen r arguments owner candidates (selectAmong r owner arguments
      (candidates.filter (·.parameterCount = arguments.length)) tiers) := by
  induction tiers with
  | nil => exact .none fun e member => tier?_eq_none.mpr fun tier => failed tier (by simp) e member
  | cons tier tiers ih =>
    obtain ⟨below, ascending⟩ := List.pairwise_cons.mp ascending
    rw [selectAmong, filter_accepts]
    -- The first tier that takes some candidate is the least of all, as the lower ones have failed.
    by_cases taken : ∃ e ∈ candidates, Takes r arguments tier e
    · have best := ofLeastTier_eq_filter taken fun lower less e member takesIt => by
        refine failed lower ?_ e member takesIt
        intro listed
        rcases List.mem_cons.mp listed with rfl | later
        · omega
        · have := below lower later
          omega
      rw [← best]
      cases matched : ofLeastTier r arguments candidates with
      | nil =>
        obtain ⟨e, member, takesIt⟩ := taken
        have : e ∈ ofLeastTier r arguments candidates := by rw [best]; simp [member, takesIt]
        simp [matched] at this
      | cons e rest =>
        cases rest with
        | nil => exact .one e matched
        | cons next rest =>
          have tied : 2 ≤ (ofLeastTier r arguments candidates).length := by simp [matched]
          have result : Chosen r arguments owner candidates _ := .several tied
          simpa only [matched] using result
    · have none : (candidates.filter fun e => decide (Takes r arguments tier e)) = [] := by
        simpa using taken
      rw [none]
      refine ih ascending fun other unlisted e member takesIt => ?_
      by_cases same : other = tier
      · exact taken ⟨e, member, same ▸ takesIt⟩
      · exact failed other (by simp [same, unlisted]) e member takesIt

theorem select_chosen (owner : ClassName) (candidates : List Executable) :
    Chosen r arguments owner candidates (select r owner arguments candidates) :=
  selectAmong_chosen owner candidates Tier.all (by simp [Tier.all, Tier.rank])
    fun tier unlisted => absurd (by cases tier <;> simp [Tier.all]) unlisted

end

section
variable {r : Registry} {arguments : List (Option JavaType)} {owner : ClassName}

theorem ofLeastTier_nil {candidates : List Executable}
    (unfit : ∀ e ∈ candidates, tier? r arguments e = none) :
    ofLeastTier r arguments candidates = [] := by
  refine List.filter_eq_nil_iff.mpr fun e member => ?_
  simp [hasLeastTier, unfit e member]

/-- What has the least tier alone has it alone among some of the candidates too. -/
theorem ofLeastTier_filter {candidates : List Executable} {e : Executable} {p : Executable → Bool}
    (best : ofLeastTier r arguments candidates = [e]) (kept : p e) :
    ofLeastTier r arguments (candidates.filter p) = [e] := by
  have least : e ∈ ofLeastTier r arguments candidates := by simp [best]
  obtain ⟨member, least⟩ := List.mem_filter.mp least
  obtain ⟨own, found, lowest⟩ := hasLeastTier_iff.mp least
  -- The candidate itself is left, so that no other tier becomes the least.
  have same : ∀ other ∈ candidates.filter p, hasLeastTier r arguments (candidates.filter p) other =
      hasLeastTier r arguments candidates other := by
    intro other _
    rw [Bool.eq_iff_iff, hasLeastTier_iff, hasLeastTier_iff]
    constructor
    · rintro ⟨tier, foundOther, below⟩
      have notAbove := below e (List.mem_filter.mpr ⟨member, kept⟩) own found
      exact ⟨tier, foundOther, fun third present higher foundThird =>
        Nat.le_trans notAbove (lowest third present higher foundThird)⟩
    · rintro ⟨tier, foundOther, below⟩
      exact ⟨tier, foundOther, fun third present => below third (List.mem_filter.mp present).1⟩
  rw [ofLeastTier, List.filter_congr same, List.filter_comm, ← ofLeastTier, best]
  simp [kept]

/-- The outcome by the candidates of least tier. -/
def outcome (owner : ClassName) (arguments : List (Option JavaType)) :
    List Executable → Except Failure (Option Executable)
  | [] => .ok none
  | [e] => .ok (some e)
  | several => .error (.ambiguousExecutable owner arguments several)

theorem Chosen.eq_outcome {candidates : List Executable}
    {result : Except Failure (Option Executable)}
    (chosen : Chosen r arguments owner candidates result) :
    result = outcome owner arguments (ofLeastTier r arguments candidates) := by
  cases chosen with
  | none unfit => rw [ofLeastTier_nil unfit, outcome]
  | one e best => rw [best, outcome]
  | several tied =>
    match least : ofLeastTier r arguments candidates, tied with
    | _ :: _ :: _, _ => rfl

/-- The choice is the only outcome that the tiers allow. -/
theorem select_eq_iff (candidates : List Executable) (result : Except Failure (Option Executable)) :
    select r owner arguments candidates = result ↔
      Chosen r arguments owner candidates result := by
  constructor
  · rintro rfl
    exact select_chosen owner candidates
  · intro chosen
    rw [chosen.eq_outcome, ← (select_chosen owner candidates).eq_outcome]

def executables : Except Failure (Option Executable) → List Executable
  | .ok e => e.toList
  | .error (.ambiguousExecutable _ _ candidates) => candidates
  | .error _ => []

theorem executables_select (candidates : List Executable) :
    executables (select r owner arguments candidates) = ofLeastTier r arguments candidates := by
  rw [(select_chosen owner candidates).eq_outcome]
  rcases ofLeastTier r arguments candidates with _ | ⟨e, _ | ⟨other, rest⟩⟩ <;> rfl

/-- What is chosen is one of the candidates and has a parameter for each argument. -/
theorem mem_of_select {candidates : List Executable} {e : Executable}
    (selected : select r owner arguments candidates = .ok (some e)) :
    e ∈ candidates ∧ e.parameterCount = arguments.length := by
  cases (select_eq_iff candidates _).mp selected with
  | one _ best =>
    have least : e ∈ ofLeastTier r arguments candidates := by simp [best]
    obtain ⟨member, least⟩ := List.mem_filter.mp least
    obtain ⟨tier, found, -⟩ := hasLeastTier_iff.mp least
    have taken := (tier?_eq_some.mp found).1.length_eq
    refine ⟨member, ?_⟩
    simpa [Executable.parameterTypes, Executable.parameterCount] using taken

/-- The choice stays the same among some of the candidates, if what is chosen is one of them. -/
theorem select_filter_iff {candidates : List Executable} {e : Executable} (p : Executable → Bool)
    (selected : select r owner arguments candidates = .ok (some e)) :
    select r owner arguments (candidates.filter p) = .ok (some e) ↔ p e := by
  constructor
  · intro left
    exact (List.mem_filter.mp (mem_of_select left).1).2
  · intro kept
    cases (select_eq_iff candidates _).mp selected with
    | one _ best => exact (select_eq_iff _ _).mpr (.one e (ofLeastTier_filter best kept))

end
end Prewire.Plan
