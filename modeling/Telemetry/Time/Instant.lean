import Telemetry.Time.Calendar
/-!
# Time — instants

An instant is a count of seconds since 1 January 1970, UTC, and
nanoseconds within the second. A leap second is the second before it
with a thousand million nanoseconds or more, so that instants are
ordered by the pair.
-/

namespace Telemetry

namespace Time

/-- A point in time to the nanosecond. -/
structure Instant where
  seconds : Int
  nanos : Nat
  deriving DecidableEq, Repr, Inhabited

namespace Instant

/-- Earlier seconds come first, then earlier nanoseconds. -/
def before (a b : Instant) : Bool :=
  a.seconds < b.seconds || (a.seconds == b.seconds && a.nanos < b.nanos)

instance : LT Instant := ⟨fun a b => a.before b = true⟩
instance : LE Instant := ⟨fun a b => b.before a = false⟩
instance (a b : Instant) : Decidable (a < b) := inferInstanceAs (Decidable (_ = true))
instance (a b : Instant) : Decidable (a ≤ b) := inferInstanceAs (Decidable (_ = false))

/-- The later of two instants, the second if neither is. -/
instance : Max Instant := ⟨fun a b => if b < a then a else b⟩

/-- A number with leading zeros up to a width. -/
def padded (width n : Nat) : List Char :=
  let ds := Nat.toDigits 10 n
  List.replicate (width - ds.length) '0' ++ ds

/-- A year: four digits from 0 to 9999, else with its sign. -/
def yearText (y : Int) : List Char :=
  if 0 ≤ y ∧ y ≤ 9999 then padded 4 y.toNat
  else (if y < 0 then '-' else '+') :: padded 4 y.natAbs

/-- The fraction of a second, with 0, 3, 6 or 9 digits. -/
def fractionText (nanos : Nat) : List Char :=
  let f := nanos % 1000000000
  if f = 0 then []
  else if f % 1000000 = 0 then '.' :: padded 3 (f / 1000000)
  else if f % 1000 = 0 then '.' :: padded 6 (f / 1000)
  else '.' :: padded 9 f

/-- Date, time of day and fraction; a leap second is second 60. -/
def localText (t : Instant) : List Char :=
  let date := Date.ofDays (t.seconds / 86400)
  let second := (t.seconds % 86400).toNat
  yearText date.year ++ '-' :: padded 2 date.month ++ '-' :: padded 2 date.day ++
    'T' :: padded 2 (second / 3600) ++ ':' :: padded 2 (second / 60 % 60) ++
    ':' :: padded 2 (second % 60 + t.nanos / 1000000000) ++ fractionText t.nanos

/-- The text with a zero offset. -/
def offsetText (t : Instant) : String :=
  String.ofList (t.localText ++ ['+', '0', '0', ':', '0', '0'])

/-- The text with `Z`. -/
def zuluText (t : Instant) : String := String.ofList (t.localText ++ ['Z'])

end Instant

end Time

end Telemetry
