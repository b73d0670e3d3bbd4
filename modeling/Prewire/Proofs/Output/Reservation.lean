import Mathlib.Algebra.Group.Nat.Defs
import Prewire.Proofs.Output.FreshName

/-! Reserving names for routines. The search for a free name has no bound of its own: it ends because more
counters are tried than names can be taken, and before the counter overflows. What one call reserves is
taken for all that follow, so no name is given twice. -/
namespace Prewire.Output.OutputClass

open Java

/-- The name itself where it is free, otherwise the name with the least positive counter that is free. -/
inductive LeastFree (taken : List String) (name : String) : String → Prop
  | itself (free : name ∉ taken) : LeastFree taken name name
  | counted {n : Nat} (known : name ∈ taken) (positive : 0 < n)
    (free : name ++ toString n ∉ taken) (least : ∀ m, 0 < m → m < n → name ++ toString m ∈ taken) :
    LeastFree taken name (name ++ toString n)

/-- A turn of the search. A candidate that is taken makes the counter, an integer of 32 bits, go up and give
the next candidate. -/
def turn (taken : List String) (name : String) (goOn : String → Int32 → Option String) (candidate : String)
    (counter : Int32) : Option String :=
  if candidate ∈ taken then goOn (name ++ toString (counter + 1)) (counter + 1) else some candidate

section
variable (taken : List String) (name : String)

/-- Turns give related results where they go on to related results. -/
theorem turn_related {related : Option String → Option String → Prop} (refl : ∀ result, related result result)
    {goOn others : String → Int32 → Option String}
    (further : ∀ candidate counter, related (goOn candidate counter) (others candidate counter))
    (candidate : String) (counter : Int32) :
    related (turn taken name goOn candidate counter) (turn taken name others candidate counter) := by
  unfold turn
  split
  · exact further _ _
  · exact refl _

/-- The search turn after turn. There is no result where it goes on without end. -/
def search (candidate : String) (counter : Int32) : Option String :=
  turn taken name search candidate counter
partial_fixpoint monotonicity by
  intro less more below candidate counter
  -- The order of results is the relation: where the search has more results, so has the turn.
  exact turn_related taken name (fun _ => .refl) below candidate counter

end

/-- What takes names: a call for a free one, or a method that is added at either end. -/
inductive Call where
  | reserve (name : String)
  | addMethod (m : Method)
  | addMethodFirst (m : Method)

def Call.run (c : OutputClass) : Call → Option String × OutputClass
  | .reserve name => ((c.reserve name).1, (c.reserve name).2)
  | .addMethod m => (none, c.addMethod m)
  | .addMethodFirst m => (none, c.addMethodFirst m)

def namesGiven : OutputClass → List Call → List String
  | _, [] => []
  | c, call :: rest => (call.run c).1.toList ++ namesGiven (call.run c).2 rest

section
variable {taken : List String} {name : String} {n : Nat}

theorem LeastFree.of_numbered (free : numbered name n ∉ taken)
    (least : ∀ m < n, numbered name m ∈ taken) : LeastFree taken name (numbered name n) := by
  cases n with
  | zero => exact .itself free
  | succ n =>
    refine .counted (least 0 n.succ_pos) n.succ_pos free fun m positive less => ?_
    obtain ⟨m, rfl⟩ := Nat.exists_eq_succ_of_ne_zero positive.ne'
    exact least _ less

/-- At most one name is the least free one. -/
theorem LeastFree.unique {first second : String} (one : LeastFree taken name first)
    (other : LeastFree taken name second) : first = second := by
  cases one with
  | itself free =>
    cases other with
    | itself => rfl
    | counted known => exact absurd known free
  | @counted m known positive free least =>
    cases other with
    | itself free => exact absurd known free
    | @counted n _ positive' free' least' =>
      rcases Nat.lt_trichotomy m n with less | rfl | more
      · exact absurd (least' m positive less) free
      · rfl
      · exact absurd (least n positive' more) free'

/-- The fresh name is the least free one, and no other name is. -/
theorem leastFree_iff {result : String} : LeastFree taken name result ↔ freshName taken name = result := by
  obtain ⟨n, -, found, free, least⟩ := freshName_least taken name
  have fresh : LeastFree taken name (freshName taken name) := found ▸ .of_numbered free least
  exact ⟨fresh.unique, fun same => same ▸ fresh⟩

/-! ### The search ends -/

/-- A turn at a candidate that is taken, with a counter that can still go up. -/
theorem search_of_taken (known : numbered name n ∈ taken) (room : n + 1 < 2 ^ 31) :
    search taken name (numbered name n) (Int32.ofNat n) =
      search taken name (numbered name (n + 1)) (Int32.ofNat (n + 1)) := by
  have counted : toString (Int32.ofNat (n + 1)) = toString (n + 1) := by
    show toString (Int32.ofNat (n + 1)).toInt = _
    rw [Int32.toInt_ofNat_of_lt room]
    rfl
  rw [search, turn, if_pos known, numbered, ← counted, Int32.ofNat_add]
  rfl

theorem search_of_free (free : numbered name n ∉ taken) (counter : Int32) :
    search taken name (numbered name n) counter = some (numbered name n) := by
  rw [search, turn, if_neg free]

/-- From any candidate on, the search comes to the first free one. -/
theorem search_numbered {turns : Nat} (room : n + turns < 2 ^ 31)
    (free : numbered name (n + turns) ∉ taken) (least : ∀ m < n + turns, numbered name m ∈ taken) :
    search taken name (numbered name n) (Int32.ofNat n) = some (numbered name (n + turns)) := by
  induction turns generalizing n with
  | zero => exact search_of_free free _
  | succ turns ih =>
    have shift : n + (turns + 1) = n + 1 + turns := by omega
    rw [shift] at room free least ⊢
    rw [search_of_taken (least n (by omega)) (by omega), ih room free least]

theorem search_eq_freshName (few : taken.toFinset.card < 2 ^ 31) (name : String) :
    search taken name name 0 = some (freshName taken name) := by
  obtain ⟨n, bound, found, free, least⟩ := freshName_least taken name
  rw [← Nat.zero_add n] at bound found free least
  rw [found]
  exact search_numbered (bound.trans_lt few) free least

end

/-! ### One call after the other -/

section
variable {c : OutputClass}

/-- A call leaves taken what was taken. -/
theorem Call.reserved_subset (c : OutputClass) (call : Call) : c.reserved ⊆ (call.run c).2.reserved := by
  cases call <;> exact List.subset_cons_self _ _

theorem Call.given_fresh {call : Call} {name : String} (given : (call.run c).1 = some name) :
    name ∉ c.reserved ∧ name ∈ (call.run c).2.reserved := by
  cases call with
  | reserve requested =>
    obtain rfl := Option.some.inj given
    exact ⟨freshName_not_mem c.reserved requested, List.mem_cons_self⟩
  | addMethod | addMethodFirst => cases given

theorem namesGiven_not_mem {calls : List Call} {name : String} (given : name ∈ c.namesGiven calls) :
    name ∉ c.reserved := by
  induction calls generalizing c with
  | nil => cases given
  | cons call rest ih =>
    rw [namesGiven, List.mem_append, Option.mem_toList] at given
    rcases given with now | later
    · exact (Call.given_fresh now).1
    · exact fun taken => ih later (call.reserved_subset c taken)

/-- By induction over the calls: a name that is given is taken for those that follow. -/
theorem nodup_namesGiven (c : OutputClass) (calls : List Call) : (c.namesGiven calls).Nodup := by
  induction calls generalizing c with
  | nil => exact .nil
  | cons call rest ih =>
    rw [namesGiven, List.nodup_append]
    refine ⟨?_, ih _, ?_⟩
    · cases (call.run c).1 <;> simp
    · rintro name now _ later rfl
      exact namesGiven_not_mem later (Call.given_fresh (Option.mem_toList.mp now)).2

end

/-- The search ends, before its counter overflows, with the name itself or with the least counter that
makes it free, and exactly that name is reserved. However calls go on, no two names that they give are
equal, and none of them was reserved before. -/
theorem reserve_least_free (c : OutputClass) (few : c.reserved.toFinset.card < 2 ^ 31) :
    (∀ name, search c.reserved name name 0 = some (c.reserve name).1 ∧
      (∀ result, LeastFree c.reserved name result ↔ (c.reserve name).1 = result) ∧
      (c.reserve name).2 = { c with reserved := (c.reserve name).1 :: c.reserved }) ∧
    ∀ calls, (c.namesGiven calls).Nodup ∧ ∀ name ∈ c.namesGiven calls, name ∉ c.reserved :=
  ⟨fun name => ⟨search_eq_freshName few name, fun _ => leastFree_iff, rfl⟩,
    fun calls => ⟨c.nodup_namesGiven calls, fun _ => namesGiven_not_mem⟩⟩

namespace ReservationSample

def counted : OutputClass where
  name := ⟨"com.example", ["Bootstrap"]⟩
  reserved := ["initialize", "register1"]

def clashingCalls : List Call :=
  [.reserve "register", .reserve "register", .reserve "register2",
    .addMethodFirst { name := "register3" }, .reserve "register", .reserve "initialize"]

end ReservationSample

open ReservationSample in
theorem reserve_least_free_clashing : counted.reserved.toFinset.card < 2 ^ 31 ∧
    counted.namesGiven clashingCalls =
      ["register", "register2", "register21", "register4", "initialize1"] ∧
    (counted.namesGiven clashingCalls).Nodup ∧
    search counted.reserved "initialize" "initialize" 0 = some "initialize1" := by
  have few : counted.reserved.toFinset.card < 2 ^ 31 :=
    (List.toFinset_card_le counted.reserved).trans_lt (by decide)
  obtain ⟨single, sequence⟩ := reserve_least_free counted few
  have names : counted.namesGiven clashingCalls =
      ["register", "register2", "register21", "register4", "initialize1"] := by decide +kernel
  have given : (counted.reserve "initialize").1 = "initialize1" := by decide +kernel
  exact ⟨few, names, (sequence clashingCalls).1, given ▸ (single "initialize").1⟩

end Prewire.Output.OutputClass
