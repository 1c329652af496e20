/-!
# Time — the calendar

Days of the proleptic Gregorian calendar, counted from 1 January 1970,
in both directions. A date is counted from 1 March of year 0, so that a
leap day ends its year; 400 years are one period of 146097 days.
-/

namespace Telemetry

namespace Time

/-- A date of the calendar. -/
structure Date where
  year : Int
  month : Nat
  day : Nat
  deriving DecidableEq, Repr

/-- Whether a year has a 29 February. -/
def isLeapYear (y : Int) : Bool := y % 4 == 0 && (y % 100 != 0 || y % 400 == 0)

/-- The number of days of a month, 0 for no month. -/
def daysInMonth (y : Int) : Nat → Nat
  | 1 | 3 | 5 | 7 | 8 | 10 | 12 => 31
  | 4 | 6 | 9 | 11 => 30
  | 2 => if isLeapYear y then 29 else 28
  | _ => 0

/-- The first and the last year that dates are kept for. -/
def firstYear : Int := -262143
def lastYear : Int := 262142

namespace Date

/-- A date of the calendar within the years that are kept. -/
def Valid (d : Date) : Prop :=
  firstYear ≤ d.year ∧ d.year ≤ lastYear ∧ 1 ≤ d.day ∧ d.day ≤ daysInMonth d.year d.month

instance (d : Date) : Decidable d.Valid := by unfold Valid; infer_instance

/-- Days since 1 January 1970. -/
def toDays (d : Date) : Int :=
  let y := if d.month ≤ 2 then d.year - 1 else d.year
  let period := y / 400
  let yearOfPeriod := y % 400
  let month : Int := (d.month + 9) % 12
  let dayOfYear := (153 * month + 2) / 5 + d.day - 1
  period * 146097 + yearOfPeriod * 365 + yearOfPeriod / 4 - yearOfPeriod / 100 + dayOfYear - 719468

/-- The date so many days after 1 January 1970. -/
def ofDays (n : Int) : Date :=
  let n := n + 719468
  let period := n / 146097
  let dayOfPeriod := n % 146097
  let yearOfPeriod :=
    (dayOfPeriod - dayOfPeriod / 1460 + dayOfPeriod / 36524 - dayOfPeriod / 146096) / 365
  let dayOfYear := dayOfPeriod - (365 * yearOfPeriod + yearOfPeriod / 4 - yearOfPeriod / 100)
  let month := (5 * dayOfYear + 2) / 153
  let day := dayOfYear - (153 * month + 2) / 5 + 1
  let month := if month < 10 then month + 3 else month - 9
  let year := yearOfPeriod + period * 400
  ⟨if month ≤ 2 then year + 1 else year, month.toNat, day.toNat⟩

end Date

end Time

end Telemetry
