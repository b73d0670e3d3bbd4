import Mathlib.Data.List.Perm.Subperm
import Prewire.Proofs.Types.Conversion

/-! Assignment within bounds. A variable of the target sends the rules on to its bound, so that the target
can grow and the source can become any of its supertypes on the way. Where no variable leads back to
itself, none comes twice on a way from bound to bound, and the rules have an answer for every source. -/
namespace Prewire.Java.Bindings

def Mentions (bounds : Bindings) (name other : String) : Prop :=
  ∃ bound, bounds.value? name = some bound ∧ other ∈ bound.variableNames ∧
    (bounds.value? other).isSome

/-- No variable leads back to itself through the variables in the bounds. -/
def IsAcyclic (bounds : Bindings) : Prop := ∀ name, ¬ Relation.TransGen bounds.Mentions name name

theorem mem_of_value? {bounds : Bindings} {name : String} {bound : JavaType}
    (found : bounds.value? name = some bound) : (name, bound) ∈ bounds := by
  obtain ⟨later, earlier, split, -⟩ := List.lookup_eq_some_iff.mp found
  apply List.mem_reverse.mp
  rw [split]
  exact List.mem_append_right _ List.mem_cons_self

/-- Variables whose bounds were unfolded, one inside the other, on the way to a type. -/
structure LeadTo (bounds : Bindings) (way : List String) (t : JavaType) : Prop where
  distinct : way.Nodup
  bounded : ∀ name ∈ way, (bounds.value? name).isSome
  mention : ∀ name ∈ way, ∀ other ∈ t.variableNames, (bounds.value? other).isSome →
    Relation.TransGen bounds.Mentions name other

namespace LeadTo

variable {bounds : Bindings} {way : List String} {t bound : JavaType} {name : String}

theorem start (bounds : Bindings) (t : JavaType) : bounds.LeadTo [] t := by
  constructor <;> simp

theorem length_le (leads : bounds.LeadTo way t) : way.length ≤ bounds.length := by
  have listed : way ⊆ bounds.map Prod.fst := by
    intro name passed
    obtain ⟨bound, found⟩ := Option.isSome_iff_exists.mp (leads.bounded name passed)
    exact List.mem_map.mpr ⟨_, mem_of_value? found, rfl⟩
  simpa using (List.subperm_of_subset leads.distinct listed).length_le

/-- Without cycles the bound of a variable that occurs was not unfolded before. -/
theorem unfold (acyclic : bounds.IsAcyclic) (leads : bounds.LeadTo way t)
    (occurs : name ∈ t.variableNames) (found : bounds.value? name = some bound) :
    bounds.LeadTo (name :: way) bound := by
  have bounded : (bounds.value? name).isSome := by rw [found]; rfl
  constructor
  · refine List.nodup_cons.mpr ⟨fun passed => ?_, leads.distinct⟩
    exact acyclic name (leads.mention name passed name occurs bounded)
  · exact List.forall_mem_cons.mpr ⟨bounded, leads.bounded⟩
  · intro start passed other mentioned otherBounded
    have mentions : bounds.Mentions name other := ⟨bound, found, mentioned, otherBounded⟩
    rcases List.mem_cons.mp passed with rfl | passed
    · exact .single mentions
    · exact (leads.mention start passed name occurs bounded).tail mentions

end LeadTo
end Prewire.Java.Bindings

namespace Prewire.Types.Registry

open Java

/-- Assignment where bounds are unfolded at most `depth` times inside each other. There is no answer where
that is too few. -/
def assignsUpTo (r : Registry) (bounds : Bindings) : Nat → JavaType → JavaType → Option Bool
  | 0 => fun _ _ => none
  | depth + 1 => r.assigns (withinBound bounds (assignsUpTo r bounds depth))

theorem answerRelation_kept :
    AnswerRelation fun first other => ∀ answer, first = some answer → other = some answer where
  decided _ _ := id
  next := by
    intro first other later laterOther kept keptLater answer answered
    cases first with
    | none => cases answered
    | some agreed =>
      rw [kept agreed rfl]
      cases agreed with
      | true => exact keptLater answer answered
      | false => exact answered

theorem answerRelation_eq : AnswerRelation Eq where
  decided _ := rfl
  next := by
    rintro first _ later _ rfl rfl
    rfl

theorem answerRelation_isSome : AnswerRelation fun first _ => first.isSome where
  decided _ := rfl
  next := by
    intro first _ later _ answered answeredLater
    obtain ⟨agreed, rfl⟩ := Option.isSome_iff_exists.mp answered
    cases agreed with
    | true => exact answeredLater
    | false => rfl

section
variable {r : Registry} {bounds : Bindings}

/-- An answer that a limit allows for is the answer without a limit. -/
theorem assignsWithin_of_upTo {depth : Nat} {target source : JavaType} {answer : Bool}
    (limited : r.assignsUpTo bounds depth target source = some answer) :
    r.assignsWithin bounds target source = some answer := by
  induction depth generalizing target source answer with
  | zero => cases limited
  | succ depth ih =>
    rw [assignsWithin]
    exact r.assigns_withinBound_related bounds answerRelation_kept (fun _ _ _ => ih) target source
      answer limited

theorem isAssignableWithin_of_upTo (depth : Nat) {target source : JavaType}
    (limited : r.assignsUpTo bounds depth target source = some true) :
    r.isAssignableWithin bounds target source := by
  rw [isAssignableWithin, assignsWithin_of_upTo limited]
  rfl

/-- Where no variable of the target has a bound, the bounds play no part. -/
theorem isAssignableWithin_of_unbounded {target : JavaType} (unbounded : Unbounded bounds target)
    (source : JavaType) : r.isAssignableWithin bounds target source = r.isAssignable target source := by
  rw [isAssignableWithin, assignsWithin, isAssignable]
  congr 1
  apply assigns_related answerRelation_eq
  intro name occurs _
  rw [withinBound, unbounded name occurs]

@[simp] theorem isAssignableWithin_nil (target source : JavaType) :
    r.isAssignableWithin [] target source = r.isAssignable target source :=
  isAssignableWithin_of_unbounded (fun _ _ => rfl) source

/-- There is an answer when the limit leaves room for all bounds that are not unfolded yet. -/
theorem isSome_assignsUpTo (acyclic : bounds.IsAcyclic) {depth : Nat} {way : List String}
    {target : JavaType} (leads : bounds.LeadTo way target) (room : bounds.length < depth + way.length)
    (source : JavaType) : (r.assignsUpTo bounds depth target source).isSome := by
  induction depth generalizing way target source with
  | zero =>
    -- More bounds would have been unfolded than there are.
    have := leads.length_le
    omega
  | succ depth ih =>
    rw [assignsUpTo]
    refine @assigns_related r _ (fun _ _ => none) _ answerRelation_isSome target source ?_
    intro name occurs source
    rw [withinBound]
    cases found : bounds.value? name with
    | none => rfl
    | some bound =>
      refine ih (leads.unfold acyclic occurs found) ?_ source
      rw [List.length_cons]
      omega

/-- The rules have an answer for any two types within acyclic bounds. On the way to it each bound is
unfolded at most once inside others, and each search for a supertype enters no class twice. -/
theorem assignsWithin_of_acyclic (acyclic : bounds.IsAcyclic) (target source : JavaType) :
    r.assignsWithin bounds target source = some (r.isAssignableWithin bounds target source) ∧
    r.assignsUpTo bounds (bounds.length + 1) target source =
      some (r.isAssignableWithin bounds target source) ∧
    ∀ t name, ∃ entered, entered.Nodup ∧ Visits r name [] t entered (r.search name [] [t]) := by
  have answered : (r.assignsUpTo bounds (bounds.length + 1) target source).isSome := by
    refine isSome_assignsUpTo acyclic (.start bounds target) ?_ source
    exact Nat.lt_succ_self _
  obtain ⟨answer, limited⟩ := Option.isSome_iff_exists.mp answered
  have within := assignsWithin_of_upTo limited
  have same : r.isAssignableWithin bounds target source = answer := by
    rw [isAssignableWithin, within]
    cases answer <;> rfl
  rw [same]
  exact ⟨within, limited, fun t _ => visits_search t⟩

end

namespace BoundsSample

open ReachabilitySample

def bounds : Bindings :=
  [("T", applied "Second" (.array (.variable "U"))), ("U", applied "First" (.ofClass Known.string))]

theorem isAcyclic : bounds.IsAcyclic := by
  apply not_transGen_self_of_rank fun name => if name = "T" then 1 else 0
  rintro name other ⟨bound, found, occurs, -⟩
  have listed := Bindings.mem_of_value? found
  simp only [bounds, List.mem_cons, Prod.mk.injEq, List.not_mem_nil, or_false] at listed
  rcases listed with ⟨rfl, rfl⟩ | ⟨rfl, rfl⟩
  · obtain rfl : other = "U" := by
      simpa [applied, JavaType.variableNames, JavaType.variableNamesOfAll] using occurs
    decide
  · simp [applied, JavaType.variableNames, JavaType.variableNamesOfAll, JavaType.ofClass] at occurs

end BoundsSample

open BoundsSample ReachabilitySample in
/-- Both bounds are unfolded where the answer is yes, and the type that `First` extends is outside of the
first one where it is no. -/
theorem assignsWithin_of_acyclic_expanding : bounds.IsAcyclic ∧
    types.assignsWithin bounds (applied "First" (.variable "T"))
      (applied "First" (applied "Second" (.array (applied "First" (.ofClass Known.string))))) =
        some true ∧
    types.assignsWithin bounds (applied "Second" (.variable "T"))
      (applied "First" (.ofClass Known.string)) = some false := by
  have accepted := assignsWithin_of_acyclic (r := types) isAcyclic (applied "First" (.variable "T"))
    (applied "First" (applied "Second" (.array (applied "First" (.ofClass Known.string)))))
  have refused := assignsWithin_of_acyclic (r := types) isAcyclic (applied "Second" (.variable "T"))
    (applied "First" (.ofClass Known.string))
  refine ⟨isAcyclic, ?_, ?_⟩
  · exact accepted.1.trans (accepted.2.1.symm.trans (by decide +kernel))
  · exact refused.1.trans (refused.2.1.symm.trans (by decide +kernel))

end Prewire.Types.Registry
