import Mathlib.Data.List.Basic
import Telemetry.Proofs.Time.Stamp
/-!
# Time — spellings of a stamp

A server may write an instant without an offset, with `Z`, or at any offset of
hours and minutes, and its fraction in any number of digits. The reader of stamps
with an offset and the one of stamps without one understand the same by the date
and the time of day that they are given: the instant of that reading in UTC, less
the offset (`Written.ofStamp?_text`).
-/

namespace Telemetry

namespace Time

open Text

namespace Stamp

/-! ## Fractions of any length -/

/-- The nanoseconds that the digits of a fraction stand for: nine of them count,
and those that are missing are zeros. -/
def nanosOf (digits : List Char) : Nat := digitsValue ((digits ++ List.replicate 9 '0').take 9)

theorem nanosOf_eq (ds : List Char) :
    nanosOf ds = digitsValue (ds.take 9) * 10 ^ (9 - (ds.take 9).length) := by
  have hzeros : (ds ++ List.replicate 9 '0').take 9 =
      ds.take 9 ++ List.replicate (9 - (ds.take 9).length) '0' := by
    rw [List.take_append, List.take_replicate, List.length_take]
    congr 2
    omega
  rw [nanosOf, hzeros, digitsValue_eq, digitsValue_eq, Nat.ofDigitChars_append,
    Nat.ofDigitChars_replicate_zero, Nat.mul_comm]

/-- **Digits after a point are read to their end**, of which nine count. -/
theorem nanoseconds_append {ds tail : List Char} (hdigit : ∀ c ∈ ds, c.isDigit = true)
    (hne : ds ≠ []) (htail : NoDigit tail) :
    nanoseconds (ds ++ tail) = .ok (nanosOf ds, tail) := by
  have hpos : 0 < ds.length := List.length_pos_iff.2 hne
  have hcounted : ∀ c ∈ ds.take 9, c.isDigit = true := fun c hc =>
    hdigit c (List.mem_of_mem_take hc)
  have hlength : (ds.take 9).length = min 9 ds.length := List.length_take
  have hsplit : ds ++ tail = ds.take 9 ++ (ds.drop 9 ++ tail) := by
    rw [← List.append_assoc, List.take_append_drop]
  have hsmall : digitsValue (ds.take 9) < 10 ^ 9 :=
    (digitsValue_lt hcounted).trans_le (Nat.pow_le_pow_right (by decide) (by omega))
  -- nine digits are all that may be read, and fewer end where the fraction does
  have hend : some 9 = some (ds.take 9).length ∨ NoDigit (ds.drop 9 ++ tail) := by
    rcases Nat.lt_or_ge ds.length 9 with hshort | hlong
    · rw [List.drop_eq_nil_of_le (by omega)]
      exact .inr htail
    · exact .inl (by rw [hlength, Nat.min_eq_left hlong])
  have hnumber : number 1 (some 9) (ds ++ tail) =
      .ok (digitsValue (ds.take 9), ds.drop 9 ++ tail) := by
    rw [hsplit]
    exact number_append hcounted (by omega) (fun m hm => by cases hm; omega) hend (by omega)
  have hplaces : (ds ++ tail).length - (ds.drop 9 ++ tail).length = (ds.take 9).length := by
    rw [List.length_append, List.length_append, List.length_drop]
    omega
  have hrest : (ds.drop 9 ++ tail).dropWhile isDigit = tail := by
    rw [List.dropWhile_append_of_pos fun c hc => by
      rw [isDigit_eq, hdigit c (List.mem_of_mem_drop hc)]]
    cases tail with
    | nil => rfl
    | cons c rest =>
      exact List.dropWhile_cons_of_neg (by rw [isDigit_eq, htail c rfl]; decide)
  rw [nanoseconds, hnumber, nanosOf_eq]
  simp only [bind, Except.bind, pure, Except.pure, hplaces, hrest]
  rfl

/-! ## Offsets -/

/-- **How the offset of a stamp is written**: not at all, as `Z`, or as hours and
minutes ahead of UTC or behind it. -/
inductive Zone where
  | unsaid
  | zulu
  | ahead (hours : Fin 24) (minutes : Fin 60)
  | behind (hours : Fin 24) (minutes : Fin 60)
  deriving DecidableEq, Repr

/-- The text of an offset, `±hh:mm`. -/
def Zone.text : Zone → List Char
  | unsaid => []
  | zulu => ['Z']
  | ahead hours minutes => '+' :: Instant.padded 2 hours ++ ':' :: Instant.padded 2 minutes
  | behind hours minutes => '-' :: Instant.padded 2 hours ++ ':' :: Instant.padded 2 minutes

/-- An offset in seconds east of UTC. -/
def Zone.seconds : Zone → Int
  | unsaid => 0
  | zulu => 0
  | ahead hours minutes => hours * 3600 + minutes * 60
  | behind hours minutes => -(hours * 3600 + minutes * 60)

theorem Zone.natAbs_seconds_lt (z : Zone) : z.seconds.natAbs < 86400 := by
  cases z <;> dsimp only [seconds] <;> omega

/-- An offset does not go on with what stands before it. -/
theorem Zone.head_text (z : Zone) : ∀ c ∈ z.text.head?, c.isDigit = false ∧ c ≠ '.' := by
  intro c hc
  cases z with
  | unsaid => cases hc
  | zulu | ahead | behind =>
    obtain rfl := Option.some.inj hc
    decide

/-- Two digits are read back. -/
theorem pair_padded {n : Nat} (hn : n < 100) (tail : List Char) :
    offset.pair (Instant.padded 2 n ++ tail) = .ok (n, tail) := by
  have hlength := length_padded Nat.two_pos hn
  have hdigit := isDigit_of_mem_padded 2 n
  have hvalue := digitsValue_padded 2 n
  obtain ⟨a, b, hab⟩ := List.length_eq_two.1 hlength
  rw [hab] at hdigit hvalue ⊢
  have hbytes : ¬ byteLength [a, b] < 2 := Nat.not_lt.2 (length_le_byteLength [a, b])
  have ha : isDigit a = true := hdigit a (by simp)
  have hb : isDigit b = true := hdigit b (by simp)
  change (if byteLength [a, b] < 2 then Except.error StampError.tooShort else
    if (isDigit a && isDigit b) = true then .ok (digitsValue [a, b], tail)
    else .error .invalid) = _
  rw [if_neg hbytes, ha, hb, hvalue]
  rfl

/-- **An offset that is written is read back**, to the end of the stamp. -/
theorem offset_text {z : Zone} (hz : z ≠ .unsaid) :
    offset (literal ':') z.text = .ok (z.seconds, []) := by
  have hcolon : ∀ rest, literal ':' (':' :: rest) = .ok rest := fun _ => rfl
  cases z with
  | unsaid => exact absurd rfl hz
  | zulu => rfl
  | ahead hours minutes | behind hours minutes =>
    have hhours := pair_padded (by omega : (hours : Nat) < 100) (':' :: Instant.padded 2 minutes)
    have hminutes := pair_padded (by omega : (minutes : Nat) < 100) []
    rw [List.append_nil] at hminutes
    have hlate : ¬ 59 < (minutes : Nat) := by omega
    simp [Zone.text, Zone.seconds, offset, hhours, hcolon, hminutes, hlate, bind, Except.bind,
      pure, Except.pure]

end Stamp

/-! ## Readings -/

/-- **What a stamp says apart from its offset**: a date in a year of four digits,
a time of day, in which there may be a second 60, and the digits of a fraction,
none if there is no point. -/
structure Written where
  date : Date
  hour : Nat
  minute : Nat
  second : Nat
  fraction : List Char
  date_valid : date.Valid
  year_nonneg : 0 ≤ date.year
  year_le : date.year ≤ 9999
  hour_le : hour ≤ 23
  minute_le : minute ≤ 59
  second_le : second ≤ 60
  digits : ∀ c ∈ fraction, c.isDigit = true

namespace Written

/-- The fraction of a second with its point. -/
def fractionText (w : Written) : List Char := if w.fraction = [] then [] else '.' :: w.fraction

/-- The parts that a stamp is read as. -/
def parts (w : Written) : Stamp.Parts :=
  ⟨w.date.year, w.date.month, w.date.day, w.hour, w.minute, w.second, Stamp.nanosOf w.fraction⟩

/-- **A spelling**: `YYYY-MM-DDTHH:MM:SS`, the fraction and the offset. -/
def text (w : Written) (z : Stamp.Zone) : String :=
  String.ofList (w.parts.text w.fractionText ++ z.text)

/-- **The instant of a reading in UTC.** Second 60 is a thousand million
nanoseconds after the beginning of second 59. -/
def instant (w : Written) : Instant where
  seconds := w.date.toDays * 86400 + w.hour * 3600 + w.minute * 60 + min w.second 59
  nanos := Stamp.nanosOf w.fraction + if w.second = 60 then 1000000000 else 0

/-- The instant that a spelling stands for: what it says, less its offset. -/
def instantAt (w : Written) (z : Stamp.Zone) : Instant :=
  ⟨w.instant.seconds - z.seconds, w.instant.nanos⟩

variable (w : Written)

theorem inRange_parts : w.parts.InRange := by
  obtain ⟨hmonth, hmonth', hday, hday'⟩ := w.date_valid.bounds
  exact ⟨⟨w.date_valid.1, w.date_valid.2.1⟩, ⟨hmonth, hmonth'⟩, ⟨hday, hday'⟩, w.hour_le,
    w.minute_le, w.second_le⟩

/-- The fraction is read back in front of an offset. -/
theorem fraction_fractionText (z : Stamp.Zone) :
    Stamp.fraction (w.fractionText ++ z.text) = .ok (w.parts.nanos, z.text) := by
  have hhead := z.head_text
  unfold fractionText
  split
  · next hnone =>
    have hnanos : w.parts.nanos = 0 := by
      rw [parts, hnone]
      rfl
    rw [hnanos, List.nil_append, Stamp.fraction]
    rintro rest hrest
    exact (hhead '.' (by rw [hrest]; rfl)).2 rfl
  · next hsome => exact Stamp.nanoseconds_append w.digits hsome fun c hc => (hhead c hc).1

/-- A year of four digits is far from the first and the last that are kept. -/
theorem toDays_bounds : -1000000 < w.date.toDays ∧ w.date.toDays < 3000000 := by
  obtain ⟨hmonth, hmonth', hday, hday'⟩ := w.date_valid.bounds
  have hyear := w.year_nonneg
  have hyear' := w.year_le
  unfold Date.toDays
  dsimp only
  split <;> omega

/-- **The parts of a reading make its instant**, less the offset. -/
theorem toInstant_parts (z : Stamp.Zone) : w.parts.toInstant z.seconds = .ok (w.instantAt z) := by
  have hoffset := z.natAbs_seconds_lt
  have hdays := w.toDays_bounds
  have hhour := w.hour_le
  have hminute := w.minute_le
  have hsecond := w.second_le
  have hfirst : (⟨firstYear, 1, 1⟩ : Date).toDays = -96465292 := by decide
  have hlast : (⟨lastYear, 12, 31⟩ : Date).toDays = 95026236 := by decide
  have hdate : (⟨w.parts.year, w.parts.month, w.parts.day⟩ : Date) = w.date := rfl
  unfold Stamp.Parts.toInstant
  dsimp only
  rw [hdate, if_neg (not_not.2 w.date_valid), if_neg (by omega), hfirst, hlast]
  unfold instantAt instant parts
  dsimp only
  by_cases hleap : w.second = 60
  · simp only [hleap, beq_self_eq_true, if_true]
    rw [if_neg (by omega)]
    congr 2
    omega
  · have hmin : ((min w.second 59 : Nat) : Int) = w.second := by omega
    have hbeq : (w.second == 60) = false := beq_eq_false_iff_ne.2 hleap
    simp only [hbeq, Bool.false_eq_true, if_false, if_neg hleap]
    rw [if_neg (by omega)]
    congr 2
    omega

/-- **Every spelling is read** as the instant it stands for: by one reader if it
has an offset, and by the other if it has none. -/
theorem ofStamp?_text (z : Stamp.Zone) : Instant.ofStamp? (w.text z) = some (w.instantAt z) := by
  have hfraction := w.fraction_fractionText z
  have hinstant := w.toInstant_parts z
  have hfixed := w.inRange_parts.fixedParts_text w.year_nonneg w.year_le hfraction
  by_cases hz : z = .unsaid
  · have hwith : ∃ e, Instant.ofStampWithOffset (w.text z) = .error e := by
      rw [Instant.ofStampWithOffset, text, String.toList_ofList, hfixed, hz]
      exact ⟨_, rfl⟩
    have hwithout : Instant.ofStampWithoutOffset (w.text z) = .ok (w.instantAt z) := by
      have hgap : ∀ (c : Char) rest, c = '-' ∨ c = ':' → id (c :: rest) = c :: rest :=
        fun _ _ _ => rfl
      have hbetween : ∀ rest, Stamp.literal 'T' ('T' :: rest) = .ok rest := fun _ => rfl
      have hfree := w.inRange_parts.freeParts_text hgap hbetween hfraction
      rw [Instant.ofStampWithoutOffset, text, String.toList_ofList, hfree]
      rw [hz] at hinstant ⊢
      exact hinstant
    obtain ⟨e, he⟩ := hwith
    rw [Instant.ofStamp?, he, hwithout]
    rfl
  · have hwith : Instant.ofStampWithOffset (w.text z) = .ok (w.instantAt z) := by
      rw [Instant.ofStampWithOffset, text, String.toList_ofList, hfixed]
      simp only [bind, Except.bind, Stamp.offset_text hz]
      rw [if_neg (Nat.not_le.2 z.natAbs_seconds_lt)]
      exact hinstant
    rw [Instant.ofStamp?, hwith]

/-- A leap second, an hour ahead of UTC and without an offset. -/
example : Instant.ofStamp? "2017-01-01T00:59:60.25+01:00" =
    Instant.ofStamp? "2016-12-31T23:59:60.2500000000" := by decide

end Written

/-- **Two texts say the same time**: they are one text, or spellings of one
instant. -/
inductive Alike : String → String → Prop where
  | same (s : String) : Alike s s
  | spellings {w w' : Written} {z z' : Stamp.Zone} (h : w.instantAt z = w'.instantAt z') :
    Alike (w.text z) (w'.text z')

/-- They are read alike, or neither is read. -/
theorem Alike.ofStamp?_eq {s s' : String} (h : Alike s s') :
    Instant.ofStamp? s = Instant.ofStamp? s' := by
  cases h with
  | same => rfl
  | spellings h => rw [Written.ofStamp?_text, Written.ofStamp?_text, h]

end Time

end Telemetry
