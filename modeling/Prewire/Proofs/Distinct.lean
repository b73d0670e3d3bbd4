import Mathlib.Data.List.Induction
import Mathlib.Data.List.Nodup

/-! The distinct elements of a list, each where it comes first. An element that is put at the end only
counts if it is new. -/
namespace Prewire

variable {α : Type} [DecidableEq α]

theorem eraseDups_concat (xs : List α) (x : α) :
    (xs ++ [x]).eraseDups = if x ∈ xs then xs.eraseDups else xs.eraseDups ++ [x] := by
  rw [List.eraseDups_append]
  by_cases known : x ∈ xs
  · simp [List.removeAll, known]
  · simp [List.removeAll, known, List.eraseDups_cons]

theorem nodup_eraseDups (xs : List α) : xs.eraseDups.Nodup := by
  induction xs using List.reverseRecOn with
  | nil => exact .nil
  | append_singleton xs x ih =>
    rw [eraseDups_concat]
    by_cases known : x ∈ xs
    · rwa [if_pos known]
    · rw [if_neg known, ← List.concat_eq_append]
      exact ih.concat (mt List.mem_eraseDups.mp known)

theorem eraseDups_of_nodup {xs : List α} (distinct : xs.Nodup) : xs.eraseDups = xs := by
  induction xs using List.reverseRecOn with
  | nil => rfl
  | append_singleton xs x ih =>
    rw [← List.concat_eq_append, List.nodup_concat] at distinct
    rw [eraseDups_concat, if_neg distinct.1, ih distinct.2]

theorem filter_eraseDups (keeps : α → Bool) (xs : List α) :
    xs.eraseDups.filter keeps = (xs.filter keeps).eraseDups := by
  induction xs using List.reverseRecOn with
  | nil => rfl
  | append_singleton xs x ih =>
    rw [eraseDups_concat, List.filter_append]
    by_cases kept : keeps x
    · by_cases known : x ∈ xs
      · simp [kept, known, eraseDups_concat, ih]
      · simp [kept, known, eraseDups_concat, ih]
    · by_cases known : x ∈ xs
      · simp [kept, known, ih]
      · simp [kept, known, ih]

/-- Repetitions in front may be left out first. -/
theorem eraseDups_append_left (xs ys : List α) :
    (xs.eraseDups ++ ys).eraseDups = (xs ++ ys).eraseDups := by
  have same : ys.removeAll xs.eraseDups = ys.removeAll xs := by simp [List.removeAll]
  rw [List.eraseDups_append, List.eraseDups_append, eraseDups_of_nodup (nodup_eraseDups xs), same]

/-- Repetitions behind may be left out first. -/
theorem eraseDups_append_right (xs ys : List α) :
    (xs ++ ys.eraseDups).eraseDups = (xs ++ ys).eraseDups := by
  rw [List.eraseDups_append, List.eraseDups_append, List.removeAll, filter_eraseDups,
    eraseDups_of_nodup (nodup_eraseDups _)]
  rfl

theorem eraseDups_append_self (xs : List α) : (xs ++ xs).eraseDups = xs.eraseDups := by
  have none : xs.removeAll xs = [] := by simp [List.removeAll]
  rw [List.eraseDups_append, none, List.eraseDups_nil, List.append_nil]

/-- A list, and behind it what is new in another. -/
def withNew (xs ys : List α) : List α := xs ++ ys.filter (· ∉ xs)

theorem eraseDups_append_of_nodup {xs ys : List α} (first : xs.Nodup) (second : ys.Nodup) :
    (xs ++ ys).eraseDups = withNew xs ys := by
  have new : ys.removeAll xs = ys.filter (· ∉ xs) := by simp [List.removeAll]
  rw [withNew, List.eraseDups_append, eraseDups_of_nodup first, new, eraseDups_of_nodup (second.filter _)]

theorem withNew_eraseDups (xs ys : List α) :
    withNew xs.eraseDups ys.eraseDups = (xs ++ ys).eraseDups := by
  rw [← eraseDups_append_of_nodup (nodup_eraseDups xs) (nodup_eraseDups ys), eraseDups_append_left,
    eraseDups_append_right]

end Prewire
