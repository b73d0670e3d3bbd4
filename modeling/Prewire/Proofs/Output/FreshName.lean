import Mathlib.Data.Finset.Card
import Mathlib.Data.Nat.Find
import Prewire.Output.OutputClass

/-! Names for routines. The numbered forms of a name all differ, so of one more forms than names are
taken some form is free, and the search ends with the first of them. -/
namespace Prewire.Output.OutputClass

/-- The number that a numbered form was made with can be read off what follows the name. -/
theorem read_numbered (name : String) (n : Nat) :
    ∃ digits, (numbered name n).toList = name.toList ++ digits ∧ Nat.ofDigitChars 10 digits 0 = n := by
  cases n with
  | zero => exact ⟨[], (List.append_nil _).symm, rfl⟩
  | succ n =>
    refine ⟨(toString (n + 1)).toList, String.toList_append, ?_⟩
    simp

theorem numbered_injective (name : String) : Function.Injective (numbered name) := by
  intro m n same
  obtain ⟨first, readFirst, rfl⟩ := read_numbered name m
  obtain ⟨second, readSecond, rfl⟩ := read_numbered name n
  have digits : first = second := List.append_cancel_left (readFirst.symm.trans (same ▸ readSecond))
  rw [digits]

/-- Of one more numbered forms than there are taken names one is free. -/
theorem exists_numbered_not_mem (taken : List String) (name : String) :
    ∃ n ≤ taken.toFinset.card, numbered name n ∉ taken := by
  let forms := (Finset.range (taken.toFinset.card + 1)).image (numbered name)
  have more : taken.toFinset.card < forms.card := by
    rw [Finset.card_image_of_injective _ (numbered_injective name), Finset.card_range]
    exact Nat.lt_succ_self _
  obtain ⟨form, listed, free⟩ := Finset.exists_mem_notMem_of_card_lt_card more
  obtain ⟨n, bound, rfl⟩ := Finset.mem_image.mp listed
  exact ⟨n, Nat.lt_succ_iff.mp (Finset.mem_range.mp bound), by simpa using free⟩

/-- The fresh name is the first numbered form that is not taken, and it is found within the range that is
searched. -/
theorem freshName_least (taken : List String) (name : String) :
    ∃ n ≤ taken.toFinset.card, freshName taken name = numbered name n ∧
      numbered name n ∉ taken ∧ ∀ m < n, numbered name m ∈ taken := by
  obtain ⟨bound, within, free⟩ := exists_numbered_not_mem taken name
  have ends : ∃ n, numbered name n ∉ taken := ⟨bound, free⟩
  let n := Nat.find ends
  have first : numbered name n ∉ taken := Nat.find_spec ends
  have least (m : Nat) (less : m < n) : numbered name m ∈ taken := not_not.mp (Nat.find_min ends less)
  have small : n ≤ taken.toFinset.card := (Nat.find_min' ends free).trans within
  have searched : n < taken.length + 1 := Nat.lt_succ_of_le (small.trans taken.toFinset_card_le)
  have found : (List.range (taken.length + 1)).find? (numbered name · ∉ taken) = some n :=
    List.find?_range_eq_some.mpr ⟨by simpa using first, List.mem_range.mpr searched,
      fun m less => by simpa using least m less⟩
  refine ⟨n, small, ?_, first, least⟩
  rw [freshName, List.find?_map, Function.comp_def, found]
  rfl

/-- A fresh name is one that is not taken. -/
theorem freshName_not_mem (taken : List String) (name : String) : freshName taken name ∉ taken := by
  obtain ⟨n, -, found, free, -⟩ := freshName_least taken name
  rwa [found]

end Prewire.Output.OutputClass
