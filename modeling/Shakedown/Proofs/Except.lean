/-
  Shakedown.Proofs.Except

  Steps that may fail, one after the other: a value in the end goes through a
  value of each step.
-/

namespace Shakedown

variable {ε α β : Type} {x : Except ε α} {f : α → Except ε β}

/-- Steps that give a value go through the value of the first. -/
theorem exists_of_bind_ok {b : β} (h : x.bind f = .ok b) : ∃ a, x = .ok a ∧ f a = .ok b := by
  cases x with
  | error e => exact nomatch h
  | ok a => exact ⟨a, rfl, h⟩

end Shakedown
