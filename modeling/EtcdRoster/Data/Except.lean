/-!
# Results of computations that can fail

What a result says of the computations it was made from.
-/

namespace Except

variable {ε α β : Type}

/-- A computation in two parts gives a result if the first part does and the second one then. -/
theorem bind_eq_ok_iff {x : Except ε α} {f : α → Except ε β} {b : β} :
    (x >>= f) = .ok b ↔ ∃ a, x = .ok a ∧ f a = .ok b := by
  cases x <;> simp [bind, Except.bind]

/-- A result can be known by what is true of it. -/
theorem exists_of_any_toOption {x : Except ε α} {p : α → Bool} (h : x.toOption.any p = true) :
    ∃ a, x = .ok a ∧ p a = true := by
  cases x with
  | error fault => cases h
  | ok a => exact ⟨a, rfl, h⟩

/-- An error stays the same whatever is made of results. -/
theorem eq_error_of_map {x : Except ε α} {f : α → β} {fault : ε} (h : x.map f = .error fault) :
    x = .error fault := by
  cases x with
  | error other => exact congrArg Except.error (Except.error.inj h)
  | ok a => cases h

end Except
