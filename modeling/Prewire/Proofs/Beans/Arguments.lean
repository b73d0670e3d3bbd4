import Mathlib.Data.Finset.Range
import Mathlib.Data.Finset.Card
import Prewire.Beans.Value

/-! Where configured arguments stand. Indexes only order the arguments that have one: such an
argument stands after those of smaller indexes, which is at its index if none is left out. -/
namespace Prewire.Beans.ConstructorArguments

inductive Built : ConstructorArguments → Prop
  | empty : Built .empty
  | indexed {a : ConstructorArguments} (built : Built a) (index : Nat) (argument : ArgumentValue) :
    Built (a.addIndexed index argument)
  | generic {a : ConstructorArguments} (built : Built a) (argument : ArgumentValue) :
    Built (a.addGeneric argument)

/-- The arguments in order, each with the index that it is configured for. -/
def sources (a : ConstructorArguments) : List (Option Nat × ArgumentValue) :=
  a.indexed.map (fun (index, argument) => (some index, argument)) ++ a.generic.map (none, ·)

/-- How many smaller indexes are configured. -/
def position (a : ConstructorArguments) (index : Nat) : Nat :=
  (a.indexed.filter (·.1 < index)).length

section
variable {index : Nat} {argument : ArgumentValue}

theorem ordered_eq (a : ConstructorArguments) : a.ordered = a.sources.map Prod.snd := by
  simp [ordered, sources, Function.comp_def]

theorem length_sources (a : ConstructorArguments) : a.sources.length = a.count := by
  simp [sources, count]

theorem of_mem_insertAt {configured : List (Nat × ArgumentValue)} {other : Nat × ArgumentValue}
    (member : other ∈ insertAt index argument configured) :
    other = (index, argument) ∨ other ∈ configured := by
  induction configured with
  | nil => simpa [insertAt] using member
  | cons first rest ih =>
    rw [insertAt] at member
    split at member
    · simpa using member
    split at member
    · rcases List.mem_cons.mp member with rfl | later
      · exact .inl rfl
      · exact .inr (.tail _ later)
    · rcases List.mem_cons.mp member with rfl | later
      · exact .inr (.head _)
      · exact (ih later).imp_right (.tail _)

/-- An argument is put where its index belongs. -/
theorem pairwise_insertAt {configured : List (Nat × ArgumentValue)}
    (ascending : configured.Pairwise (·.1 < ·.1)) :
    (insertAt index argument configured).Pairwise (·.1 < ·.1) := by
  induction configured with
  | nil => simp [insertAt]
  | cons first rest ih =>
    obtain ⟨above, ascending⟩ := List.pairwise_cons.mp ascending
    rw [insertAt]
    split
    next smaller =>
      refine List.pairwise_cons.mpr ⟨fun other member => ?_, List.pairwise_cons.mpr ⟨above, ascending⟩⟩
      rcases List.mem_cons.mp member with rfl | later
      · exact smaller
      · exact smaller.trans (above other later)
    next =>
      split
      next same => exact List.pairwise_cons.mpr ⟨same ▸ above, ascending⟩
      next =>
        refine List.pairwise_cons.mpr ⟨fun other member => ?_, ih ascending⟩
        rcases of_mem_insertAt member with rfl | later
        · show first.1 < index
          omega
        · exact above other later

theorem Built.ascending {a : ConstructorArguments} (built : a.Built) :
    a.indexed.Pairwise (·.1 < ·.1) := by
  induction built with
  | empty => exact .nil
  | indexed _ _ _ ih => exact pairwise_insertAt ih
  | generic _ _ ih => exact ih

/-- Arguments in the order of their indexes have those of smaller indexes before them. -/
theorem position_eq {configured : List (Nat × ArgumentValue)}
    (ascending : configured.Pairwise (·.1 < ·.1)) {place : Nat}
    (found : configured[place]? = some (index, argument)) :
    place = (configured.filter (·.1 < index)).length := by
  induction configured generalizing place with
  | nil => simp at found
  | cons first rest ih =>
    obtain ⟨above, ascending⟩ := List.pairwise_cons.mp ascending
    cases place with
    | zero =>
      obtain rfl : first = (index, argument) := by simpa using found
      -- All after it have larger indexes.
      have none : rest.filter (·.1 < index) = [] := by
        refine List.filter_eq_nil_iff.mpr fun other member => ?_
        have := above other member
        simp
        omega
      simp [none]
    | succ place =>
      rw [List.getElem?_cons_succ] at found
      have below : first.1 < index := above _ (List.mem_of_getElem? found)
      rw [List.filter_cons_of_pos (by simpa using below), List.length_cons, ih ascending found]

section
variable {a : ConstructorArguments} (built : a.Built)
include built

/-- A configured argument stands at its position, and the argument of an index at no other. -/
theorem Built.sources_position (configured : (index, argument) ∈ a.indexed) :
    a.sources[a.position index]? = some (some index, argument) := by
  obtain ⟨place, bound, found⟩ := List.mem_iff_getElem.mp configured
  have found : a.indexed[place]? = some (index, argument) := by rw [List.getElem?_eq_getElem bound, found]
  rw [position, ← position_eq built.ascending found, sources, List.getElem?_append_left (by simpa)]
  simp [found]

theorem Built.eq_position {place : Nat}
    (found : a.sources[place]? = some (some index, argument)) : place = a.position index := by
  rw [sources, List.getElem?_append] at found
  split at found
  · rw [List.getElem?_map, Option.map_eq_some_iff] at found
    obtain ⟨⟨other, value⟩, found, same⟩ := found
    obtain ⟨rfl, rfl⟩ : other = index ∧ value = argument := by simpa using same
    exact position_eq built.ascending found
  · rw [List.getElem?_map, Option.map_eq_some_iff] at found
    obtain ⟨_, -, same⟩ := found
    simp at same

/-- The position is the index if and only if no smaller index is left out. -/
theorem Built.position_eq_iff :
    a.position index = index ↔ ∀ smaller < index, smaller ∈ a.indexed.map Prod.fst := by
  have distinct : (a.indexed.map Prod.fst).Nodup :=
    (List.pairwise_map.mpr built.ascending).imp Nat.ne_of_lt
  have below : ((a.indexed.map Prod.fst).filter (· < index)).length = a.position index := by
    simp [position, List.filter_map, Function.comp_def]
  -- The smaller indexes that are configured are a set of that size.
  let smaller := ((a.indexed.map Prod.fst).filter (· < index)).toFinset
  have size : smaller.card = a.position index := by
    rw [List.toFinset_card_of_nodup (distinct.filter _), below]
  have bounded : smaller ⊆ Finset.range index := fun other member => by
    have := (List.mem_filter.mp (List.mem_toFinset.mp member)).2
    simpa using this
  constructor
  · intro whole other less
    have all := Finset.eq_of_subset_of_card_le bounded (by rw [Finset.card_range, size, whole])
    have member : other ∈ smaller := all ▸ Finset.mem_range.mpr less
    exact (List.mem_filter.mp (List.mem_toFinset.mp member)).1
  · intro all
    have whole : Finset.range index ⊆ smaller := fun other member => by
      have less := Finset.mem_range.mp member
      exact List.mem_toFinset.mpr (List.mem_filter.mpr ⟨all other less, by simpa using less⟩)
    rw [← size, bounded.antisymm whole, Finset.card_range]

end
end
end Prewire.Beans.ConstructorArguments
