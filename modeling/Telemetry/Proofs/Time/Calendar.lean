import Mathlib.Tactic.ByContra
import Mathlib.Tactic.IntervalCases
import Mathlib.Tactic.SplitIfs
import Telemetry.Time.Calendar
/-!
# Time — days and dates

The date of a day is a date of the calendar, and it is the date of that day and
no other (`Date.toDays_ofDays`, `Date.valid_ofDays`). Days are put into a period of
400 years, a year of it and a month of the year, where years begin with March
(`MarchDate`), so that the months before the last all have a fixed first day.
-/

namespace Telemetry

namespace Time

/-! ## Years of a period -/

/-- The days of a period before one of its years. -/
def yearStart (y : Int) : Int := 365 * y + y / 4 - y / 100

/-- The year of a period that a day of it is in. -/
def yearOf (d : Int) : Int := (d - d / 1460 + d / 36524 - d / 146096) / 365

/-- The days of a year of a period, of which the last one is a leap year. -/
def yearLength (y : Int) : Int := if y = 399 then 366 else yearStart (y + 1) - yearStart y

/-- The leap year of March years is the one that ends with a leap day. -/
theorem yearLength_eq {y : Int} (hy : 0 ≤ y) (hy' : y ≤ 399) (period : Int) :
    yearLength y = if isLeapYear (y + period * 400 + 1) then 366 else 365 := by
  have hleap : isLeapYear (y + period * 400 + 1) = true ↔
      (y + 1) % 4 = 0 ∧ ((y + 1) % 100 ≠ 0 ∨ (y + 1) % 400 = 0) := by
    have hfour : (y + period * 400 + 1) % 4 = (y + 1) % 4 := by omega
    have hhundred : (y + period * 400 + 1) % 100 = (y + 1) % 100 := by omega
    have hperiod : (y + period * 400 + 1) % 400 = (y + 1) % 400 := by omega
    simp [isLeapYear, hfour, hhundred, hperiod]
  unfold yearLength yearStart
  split_ifs <;> rw [hleap] at * <;> omega

theorem yearOf_mono {d d' : Int} (hd : 0 ≤ d) (hle : d ≤ d') (hd' : d' < 146097) :
    yearOf d ≤ yearOf d' := by
  unfold yearOf
  refine Int.ediv_le_ediv (by decide) ?_
  have hfour : d' / 1460 - d / 1460 ≤ d' - d := by omega
  -- the last day of a period is the only one that a quotient by 146096 counts
  have hlast : d' / 146096 - d / 146096 ≤ d' / 36524 - d / 36524 := by
    rcases Int.lt_or_le d' 146096 with h' | h'
    · omega
    · obtain rfl : d' = 146096 := by omega
      omega
  omega

/-- The first day of a year is in it, and the day before is in the year before. -/
theorem yearOf_yearStart : ∀ y : Fin 400, yearOf (yearStart y) = y ∧
    (y.1 ≠ 0 → yearOf (yearStart y - 1) = y - 1) := by
  decide +kernel

/-- **A day is in its year.** -/
theorem yearOf_spec {d : Int} (hd : 0 ≤ d) (hlt : d < 146097) :
    0 ≤ yearOf d ∧ yearOf d ≤ 399 ∧ yearStart (yearOf d) ≤ d ∧
      d < yearStart (yearOf d) + yearLength (yearOf d) := by
  have hleast : 0 ≤ yearOf d := yearOf_mono (Int.le_refl 0) hd hlt
  have hgreatest : yearOf d ≤ 399 := yearOf_mono hd (by omega : d ≤ 146096) (by decide)
  obtain ⟨y, hy⟩ := Int.eq_ofNat_of_zero_le hleast
  have hylt : y < 400 := by omega
  refine ⟨hleast, hgreatest, ?_, ?_⟩
  · by_contra hbefore
    rw [hy] at hbefore
    have hzero : y ≠ 0 := by
      rintro rfl
      exact hbefore (by simpa [yearStart] using hd)
    have hprev := (yearOf_yearStart ⟨y, hylt⟩).2 hzero
    have hmono : yearOf d ≤ yearOf (yearStart y - 1) :=
      yearOf_mono hd (by omega) (by unfold yearStart; omega)
    dsimp only at hprev
    omega
  · by_contra hafter
    rw [hy, yearLength] at hafter
    split_ifs at hafter with hlast
    · rw [hlast] at hafter
      exact hafter (by simpa [yearStart] using hlt)
    · have hnext := (yearOf_yearStart ⟨y + 1, by omega⟩).1
      have hmono : yearOf (yearStart (y + 1)) ≤ yearOf d :=
        yearOf_mono (by unfold yearStart; omega) (by omega) hlt
      push_cast at hnext
      omega

/-! ## Months of a year that begins with March -/

/-- The days of a year before one of its months, counted from March. -/
def monthStart (m : Int) : Int := (153 * m + 2) / 5

/-- The month of a year that a day of it is in. -/
def monthOf (d : Int) : Int := (5 * d + 2) / 153

/-- **A day is in its month.** -/
theorem monthOf_spec : ∀ d : Fin 366, 0 ≤ monthOf d ∧ monthOf d ≤ 11 ∧
    monthStart (monthOf d) ≤ d ∧ d < monthStart (monthOf d + 1) := by
  decide +kernel

/-! ## Dates counted from March -/

/-- A date by years that begin with March, in periods of 400 years. -/
structure MarchDate where
  period : Int
  year : Int
  month : Int
  day : Int

namespace MarchDate

/-- Days since 1 March of year 0. -/
def toDays (m : MarchDate) : Int :=
  m.period * 146097 + yearStart m.year + monthStart m.month + m.day - 1

/-- The date by years that begin with January. -/
def toDate (m : MarchDate) : Date where
  year := m.year + m.period * 400 + if m.month < 10 then 0 else 1
  month := (if m.month < 10 then m.month + 3 else m.month - 9).toNat
  day := m.day.toNat

/-- Years from 0 to 399, months from 0 to 11, and a day that its month and its
year have. -/
structure Valid (m : MarchDate) : Prop where
  year_nonneg : 0 ≤ m.year
  year_le : m.year ≤ 399
  month_nonneg : 0 ≤ m.month
  month_le : m.month ≤ 11
  day_pos : 1 ≤ m.day
  day_le : monthStart m.month + m.day ≤ monthStart (m.month + 1)
  day_le_year : monthStart m.month + m.day ≤ yearLength m.year

/-- January and February are in the year after the one that began with March. -/
theorem year_of_month {m : Int} (hm : 0 ≤ m) (hm' : m ≤ 11) (y : Int) :
    (y + if m < 10 then 0 else 1) =
      if (if m < 10 then m + 3 else m - 9) ≤ 2 then y + 1 else y := by
  split_ifs <;> omega

/-- **Every day has such a date**, and its date is found through it. -/
theorem exists_ofDays (n : Int) :
    ∃ m : MarchDate, m.Valid ∧ m.toDays = n + 719468 ∧ m.toDate = Date.ofDays n := by
  have hperiod : (n + 719468) / 146097 * 146097 + (n + 719468) % 146097 = n + 719468 := by omega
  have hyear := yearOf_spec (d := (n + 719468) % 146097) (by omega) (by omega)
  obtain ⟨hyear₀, hyear₁, hstart, hend⟩ := hyear
  obtain ⟨dayOfYear, hday⟩ := Int.eq_ofNat_of_zero_le (Int.sub_nonneg.2 hstart)
  have hdaylt : dayOfYear < 366 := by
    have hlength : yearLength (yearOf ((n + 719468) % 146097)) ≤ 366 := by
      unfold yearLength yearStart
      split_ifs <;> omega
    omega
  obtain ⟨hmonth₀, hmonth₁, hfirst, hnext⟩ := monthOf_spec ⟨dayOfYear, hdaylt⟩
  dsimp only at hmonth₀ hmonth₁ hfirst hnext
  refine ⟨⟨(n + 719468) / 146097, yearOf ((n + 719468) % 146097), monthOf dayOfYear,
    dayOfYear - monthStart (monthOf dayOfYear) + 1⟩, ?_, ?_, ?_⟩
  · constructor <;> dsimp only <;> omega
  · dsimp only [toDays]
    omega
  · unfold Date.ofDays
    dsimp only [toDate]
    rw [yearOf, yearStart] at hday
    rw [hday]
    unfold yearOf monthOf monthStart
    congr 1
    exact year_of_month hmonth₀ hmonth₁ _

/-- and its date is that of no other day. -/
theorem Valid.toDays_toDate {m : MarchDate} (h : m.Valid) :
    m.toDate.toDays = m.toDays - 719468 := by
  obtain ⟨period, year, month, day⟩ := m
  obtain ⟨hyear₀, hyear₁, hmonth₀, hmonth₁, hday, -, -⟩ := h
  dsimp only at *
  unfold Date.toDays toDate toDays yearStart monthStart
  dsimp only
  by_cases hmonth : month < 10
  · simp only [if_pos hmonth]
    rw [if_neg (by omega)]
    omega
  · simp only [if_neg hmonth]
    rw [if_pos (by omega)]
    omega

/-- The months before February have the same days in every year. -/
theorem daysInMonth_of_lt (y : Int) {k : Nat} (hk : k < 11) :
    (daysInMonth y (if (k : Int) < 10 then (k : Int) + 3 else k - 9).toNat : Int) =
      monthStart (k + 1) - monthStart k := by
  interval_cases k <;> rfl

/-- **The day is one that the month has.** -/
theorem Valid.day_le_daysInMonth {m : MarchDate} (h : m.Valid) :
    m.toDate.day ≤ daysInMonth m.toDate.year m.toDate.month := by
  obtain ⟨period, year, month, day⟩ := m
  obtain ⟨hyear₀, hyear₁, hmonth₀, hmonth₁, hday, hdayle, hdayyear⟩ := h
  dsimp only at *
  obtain ⟨k, rfl⟩ := Int.eq_ofNat_of_zero_le hmonth₀
  unfold toDate
  dsimp only
  by_cases hlast : k = 11
  · -- February ends its year
    subst hlast
    have hfebruary : daysInMonth (year + period * 400 + 1) 2 =
        if isLeapYear (year + period * 400 + 1) then 29 else 28 := rfl
    have hfirst : monthStart (11 : Nat) = 337 := rfl
    rw [yearLength_eq hyear₀ hyear₁ period, hfirst] at hdayyear
    change day.toNat ≤ daysInMonth (year + period * 400 + 1) 2
    rw [hfebruary]
    split_ifs at hdayyear ⊢ <;> omega
  · have hmonth := daysInMonth_of_lt
      (year + period * 400 + if (k : Int) < 10 then 0 else 1) (by omega : k < 11)
    omega

end MarchDate

namespace Date

/-- **A day is that of its date.** -/
theorem toDays_ofDays (n : Int) : (ofDays n).toDays = n := by
  obtain ⟨m, hm, hdays, hdate⟩ := MarchDate.exists_ofDays n
  rw [← hdate, hm.toDays_toDate, hdays]
  omega

/-- **The date of a day that is kept is a date of the calendar.** -/
theorem valid_ofDays {n : Int} (hfirst : (⟨firstYear, 1, 1⟩ : Date).toDays ≤ n)
    (hlast : n ≤ (⟨lastYear, 12, 31⟩ : Date).toDays) : (ofDays n).Valid := by
  obtain ⟨m, hm, hdays, hdate⟩ := MarchDate.exists_ofDays n
  have hday := hm.day_le_daysInMonth
  rw [← hdate]
  obtain ⟨period, year, month, day⟩ := m
  obtain ⟨hyear₀, hyear₁, hmonth₀, hmonth₁, hpos, hdayle, hdayyear⟩ := hm
  have hlower : (⟨firstYear, 1, 1⟩ : Date).toDays = -96465292 := by decide
  have hupper : (⟨lastYear, 12, 31⟩ : Date).toDays = 95026236 := by decide
  refine ⟨?_, ?_, ?_, hday⟩
  · unfold MarchDate.toDate firstYear
    unfold MarchDate.toDays yearStart monthStart at *
    dsimp only at *
    split_ifs <;> omega
  · unfold MarchDate.toDate lastYear
    unfold MarchDate.toDays yearStart monthStart at *
    dsimp only at *
    have hperiod : period ≤ 655 := by omega
    split_ifs
    · omega
    · by_contra hyear
      obtain rfl : period = 655 := by omega
      omega
  · unfold MarchDate.toDate
    dsimp only at *
    omega

/-- A date has a month and a day that some month has. -/
theorem Valid.bounds {d : Date} (h : d.Valid) :
    1 ≤ d.month ∧ d.month ≤ 12 ∧ 1 ≤ d.day ∧ d.day ≤ 31 := by
  obtain ⟨-, -, hday, hlast⟩ := h
  unfold daysInMonth at hlast
  split at hlast
  all_goals first
    | omega
    | split at hlast <;> omega

end Date

end Time

end Telemetry
