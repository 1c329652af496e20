import Mathlib.Order.Defs.LinearOrder
import Telemetry.Time.Instant
/-!
# Time — the order of instants

Instants are ordered by their seconds, then by their nanoseconds, and this
is a linear order: the comparisons of a merge never leave two times
unordered.
-/

namespace Telemetry

namespace Time

namespace Instant

theorem lt_iff {a b : Instant} :
    a < b ↔ a.seconds < b.seconds ∨ a.seconds = b.seconds ∧ a.nanos < b.nanos := by
  change a.before b = true ↔ _
  simp [before]

theorem le_iff {a b : Instant} :
    a ≤ b ↔ a.seconds < b.seconds ∨ a.seconds = b.seconds ∧ a.nanos ≤ b.nanos := by
  have hle : a ≤ b ↔ ¬ b < a := by
    change b.before a = false ↔ ¬ b.before a = true
    simp
  rw [hle, lt_iff]
  omega

/-- Any two instants are the same, or one is before the other. -/
instance : LinearOrder Instant where
  le_refl a := by
    rw [le_iff]
    omega
  le_trans a b c hab hbc := by
    rw [le_iff] at hab hbc ⊢
    omega
  lt_iff_le_not_ge a b := by
    rw [lt_iff, le_iff, le_iff]
    omega
  le_antisymm a b hab hba := by
    rw [le_iff] at hab hba
    have hseconds : a.seconds = b.seconds := by omega
    have hnanos : a.nanos = b.nanos := by omega
    cases a
    cases b
    simp_all
  le_total a b := by
    rw [le_iff, le_iff]
    omega
  toDecidableLE := inferInstance
  max_def a b := by
    change (if b < a then a else b) = _
    by_cases hab : a ≤ b
    · rw [if_pos hab, if_neg]
      rw [lt_iff]
      rw [le_iff] at hab
      omega
    · rw [if_neg hab, if_pos]
      rw [lt_iff]
      rw [le_iff] at hab
      omega

end Instant

end Time

end Telemetry
