/-!
# Steps that may fail

How readers of several steps are taken apart: one that succeeds has succeeded at
every step.
-/

namespace Telemetry

variable {ε α β : Type}

/-- Two steps succeed if the first does, and the second on what it gives. -/
theorem bind_eq_ok_iff {x : Except ε α} {f : α → Except ε β} {b : β} :
    x >>= f = .ok b ↔ ∃ a, x = .ok a ∧ f a = .ok b := by
  cases x <;> simp [bind, Except.bind]

/-- What a step gives is enough to know the step. -/
theorem ok_of_toOption {x : Except ε α} {a : α} (h : x.toOption = some a) : x = .ok a := by
  cases x with
  | error e => cases h
  | ok b => rw [Option.some.inj h]

end Telemetry
