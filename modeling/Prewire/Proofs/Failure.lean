import Prewire.Failure

/-! A computation that succeeds has parts that succeed, and one that fails has a first part that does. -/
namespace Prewire

/-- The failure of a computation that fails. -/
def failure? {α : Type} : Except Failure α → Option Failure
  | .ok _ => none
  | .error failure => some failure

section
variable {α β : Type} {result : Except Failure α} {b : β}

theorem eq_ok_of_map {g : α → β} (mapped : result.map g = .ok b) :
    ∃ a, result = .ok a ∧ g a = b := by
  cases result with
  | error failure => simp [Except.map] at mapped
  | ok a => exact ⟨a, rfl, by simpa [Except.map] using mapped⟩

theorem eq_ok_of_bind {next : α → Except Failure β} (bound : (result >>= next) = .ok b) :
    ∃ a, result = .ok a ∧ next a = .ok b := by
  cases result with
  | error failure => cases bound
  | ok a => exact ⟨a, rfl, bound⟩

theorem failure?_eq_some {failure : Failure} : failure? result = some failure ↔ result = .error failure := by
  cases result <;> simp [failure?]

theorem exists_ok_of_failure? (none : failure? result = none) : ∃ a, result = .ok a := by
  cases result with
  | error failure => simp [failure?] at none
  | ok a => exact ⟨a, rfl⟩

/-- What only puts the result together does not fail. -/
theorem failure?_bind_pure (g : α → β) : failure? (result >>= fun a => pure (g a)) = failure? result := by
  cases result <;> rfl

/-- Of two computations in a row the first one that fails decides. -/
theorem failure?_bind_bind {γ : Type} {second : Except Failure β} (g : α → β → γ) :
    failure? (result >>= fun a => second >>= fun b => pure (g a b)) =
      (failure? result).or (failure? second) := by
  cases result with
  | error failure => rfl
  | ok a => cases second <;> rfl

end
end Prewire
