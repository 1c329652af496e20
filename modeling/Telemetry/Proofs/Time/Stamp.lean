import Mathlib.Tactic.SplitIfs
import Telemetry.Proofs.Failure
import Telemetry.Proofs.Time.Calendar
import Telemetry.Time.Reader
/-!
# Time — instants that are read back

An instant that is written is read back to the nanosecond, in any year that is
kept and in a leap second too (`Instant.Kept.ofLenientStamp_zuluText`), and
whatever is read is such an instant (`Instant.kept_of_ofLenientStamp`). A number
is read to its last digit: either it has as many of them as may be read, or no
digit follows it (`Stamp.number_append`).
-/

namespace Telemetry

namespace Time

open Text

namespace Stamp

/-! ## Digits -/

theorem isDigit_eq (c : Char) : isDigit c = c.isDigit := rfl

theorem digitsValue_eq (ds : List Char) : digitsValue ds = Nat.ofDigitChars 10 ds 0 := by
  simp [digitsValue, Nat.ofDigitChars_eq_foldl, Nat.mul_comm]

/-- A digit in front counts as often as the number of those behind it says. -/
theorem digitsValue_cons (c : Char) (rest : List Char) :
    digitsValue (c :: rest) = (c.toNat - 48) * 10 ^ rest.length + digitsValue rest := by
  have hzero : '0'.toNat = 48 := rfl
  rw [digitsValue_eq, digitsValue_eq, Nat.ofDigitChars_cons,
    Nat.ofDigitChars_eq_ofDigitChars_zero, hzero, Nat.mul_zero, Nat.zero_add, Nat.mul_comm]

/-- So many digits make a number below that power of ten. -/
theorem digitsValue_lt {ds : List Char} (h : ∀ c ∈ ds, c.isDigit = true) :
    digitsValue ds < 10 ^ ds.length := by
  induction ds with
  | nil => decide
  | cons c rest ih =>
    have hc := Char.isDigit_iff_toNat.1 (h c List.mem_cons_self)
    have hrest := ih fun d hd => h d (List.mem_cons_of_mem c hd)
    have hnine : '9'.toNat = 57 := rfl
    have hmul : (c.toNat - 48) * 10 ^ rest.length ≤ 9 * 10 ^ rest.length :=
      Nat.mul_le_mul_right _ (by omega)
    rw [digitsValue_cons, List.length_cons, Nat.pow_succ]
    omega

theorem length_le_byteLength (cs : List Char) : cs.length ≤ byteLength cs := by
  have hfold : ∀ n, n + cs.length ≤ cs.foldl (fun n c => n + c.utf8Size) n := by
    induction cs with
    | nil => simp
    | cons c rest ih =>
      intro n
      have hrest := ih (n + c.utf8Size)
      have hc := c.utf8Size_pos
      simp only [List.length_cons, List.foldl_cons]
      omega
  simpa [byteLength] using hfold 0

/-- No digit is at the front. -/
abbrev NoDigit (cs : List Char) : Prop := ∀ c ∈ cs.head?, c.isDigit = false

theorem NoDigit.take {tail : List Char} (h : NoDigit tail) (n : Nat) : NoDigit (tail.take n) := by
  intro c hc
  rw [List.head?_take] at hc
  split at hc
  · cases hc
  · exact h c hc

/-- Digits end where no digit follows. -/
theorem takeWhile_isDigit_append {ds rest : List Char} (hdigit : ∀ c ∈ ds, c.isDigit = true)
    (hrest : NoDigit rest) : (ds ++ rest).takeWhile isDigit = ds := by
  have hds : ∀ c ∈ ds, isDigit c = true := fun c hc => by rw [isDigit_eq, hdigit c hc]
  rw [List.takeWhile_append_of_pos hds]
  cases rest with
  | nil => simp
  | cons c rest =>
    rw [List.takeWhile_cons_of_neg (by rw [isDigit_eq, hrest c rfl]; decide), List.append_nil]

/-- **A number is read to its last digit**, if it has as many of them as may be
read or no digit follows it. -/
theorem number_append {least : Nat} {most : Option Nat} {ds tail : List Char}
    (hdigit : ∀ c ∈ ds, c.isDigit = true) (hleast : least ≤ ds.length)
    (hmost : ∀ m ∈ most, ds.length ≤ m) (hend : most = some ds.length ∨ NoDigit tail)
    (hsmall : digitsValue ds < 0x8000000000000000) :
    number least most (ds ++ tail) = .ok (digitsValue ds, tail) := by
  have htake : ((most.map (ds ++ tail).take).getD (ds ++ tail)).takeWhile isDigit = ds := by
    cases most with
    | none => exact takeWhile_isDigit_append hdigit (hend.resolve_left nofun)
    | some m =>
      obtain ⟨k, rfl⟩ := Nat.exists_eq_add_of_le (hmost m rfl)
      have hsplit : (ds ++ tail).take (ds.length + k) = ds ++ tail.take k :=
        List.take_length_add_append k
      rw [Option.map_some, Option.getD_some, hsplit]
      refine takeWhile_isDigit_append hdigit ?_
      rcases hend with hall | htail
      · obtain rfl : k = 0 := by simpa using hall
        exact nofun
      · exact htail.take k
  have hbytes : ¬ byteLength ((ds ++ tail).take least) < least := by
    have hlength := length_le_byteLength ((ds ++ tail).take least)
    rw [List.length_take, List.length_append] at hlength
    omega
  rw [number]
  simp only [htake]
  rw [if_neg hbytes, if_neg (Nat.not_lt.2 hleast), if_neg (Nat.not_le.2 hsmall), List.drop_left]

/-- What is read as a number are its digits. -/
theorem number_eq_ok {least : Nat} {most : Option Nat} {cs rest : List Char} {n : Nat}
    (h : number least most cs = .ok (n, rest)) :
    ∃ ds, cs = ds ++ rest ∧ (∀ c ∈ ds, c.isDigit = true) ∧ (∀ m ∈ most, ds.length ≤ m) ∧
      n = digitsValue ds := by
  unfold number at h
  dsimp only at h
  split at h
  · cases h
  split at h
  · cases h
  split at h
  · cases h
  cases h
  generalize hds : ((most.map cs.take).getD cs).takeWhile isDigit = ds
  have hpre : ds <+: cs := by
    rw [← hds]
    refine (List.takeWhile_prefix _).trans ?_
    cases most with
    | none => exact List.prefix_rfl
    | some m => exact List.take_prefix m cs
  obtain ⟨rest, rfl⟩ := hpre
  refine ⟨ds, by simp, fun c hc => ?_, fun m hm => ?_, rfl⟩
  · rw [← hds] at hc
    exact List.all_eq_true.1 List.all_takeWhile c hc
  · obtain rfl : most = some m := hm
    rw [← hds]
    exact (List.takeWhile_prefix _).length_le.trans (List.length_take_le m _)

/-! ## Numbers of a width -/

theorem isDigit_of_mem_padded (width n : Nat) :
    ∀ c ∈ Instant.padded width n, c.isDigit = true := by
  intro c hc
  rcases List.mem_append.1 hc with hc | hc
  · rw [List.eq_of_mem_replicate hc]
    decide
  · exact Nat.isDigit_of_mem_toDigits (by decide) (by decide) hc

/-- Leading zeros say nothing. -/
theorem digitsValue_padded (width n : Nat) : digitsValue (Instant.padded width n) = n := by
  rw [digitsValue_eq, Instant.padded, Nat.ofDigitChars_append, Nat.ofDigitChars_replicate_zero,
    Nat.mul_zero, Nat.ofDigitChars_ten_toDigits]

theorem length_padded {width n : Nat} (hwidth : 0 < width) (hn : n < 10 ^ width) :
    (Instant.padded width n).length = width := by
  have hlength := (Nat.length_toDigits_le_iff (by decide) hwidth).2 hn
  rw [Instant.padded, List.length_append, List.length_replicate]
  omega

theorem padded_ne_nil (width n : Nat) : Instant.padded width n ≠ [] :=
  List.append_ne_nil_of_right_ne_nil _ Nat.toDigits_ne_nil

/-- **A number with leading zeros is read back** where its digits end. -/
theorem number_padded {least width n : Nat} {most : Option Nat} {tail : List Char}
    (hleast : least ≤ (Instant.padded width n).length)
    (hmost : ∀ m ∈ most, (Instant.padded width n).length ≤ m)
    (hend : most = some (Instant.padded width n).length ∨ NoDigit tail)
    (hsmall : n < 0x8000000000000000) :
    number least most (Instant.padded width n ++ tail) = .ok (n, tail) := by
  have hnumber := number_append (isDigit_of_mem_padded width n) hleast hmost hend
    (by rwa [digitsValue_padded])
  rwa [digitsValue_padded] at hnumber

/-- So it is if it has as many digits as may be read. -/
theorem number_padded_width {least width n : Nat} (hwidth : 0 < width) (hn : n < 10 ^ width)
    (hleast : least ≤ width) (hsmall : n < 0x8000000000000000) (tail : List Char) :
    number least (some width) (Instant.padded width n ++ tail) = .ok (n, tail) := by
  have hlength := length_padded hwidth hn
  exact number_padded (by omega) (fun m hm => by cases hm; omega) (.inl (by rw [hlength])) hsmall

/-- What begins with a digit does not begin with a blank. -/
theorem trimFront_of_isDigit {cs : List Char} (h : ∀ c ∈ cs.head?, c.isDigit = true) :
    trimFront cs = cs := by
  cases cs with
  | nil => rfl
  | cons c rest =>
    refine List.dropWhile_cons_of_neg ?_
    have hc := Char.isDigit_iff_toNat.1 (h c rfl)
    have hzero : '0'.toNat = 48 := rfl
    have hnine : '9'.toNat = 57 := rfl
    simp [isBlank]
    omega

theorem head_padded (width n : Nat) (tail : List Char) :
    ∀ c ∈ (Instant.padded width n ++ tail).head?, c.isDigit = true := by
  obtain ⟨c, rest, hcs⟩ := List.exists_cons_of_ne_nil (padded_ne_nil width n)
  have hc := isDigit_of_mem_padded width n c (by simp [hcs])
  simp [hcs, hc]

/-- **A number of two digits is read back** if it is within the bounds. -/
theorem short_padded {low high n : Nat} (hlow : low ≤ n) (hhigh : n ≤ high) (hn : n < 100)
    (tail : List Char) : short low high (Instant.padded 2 n ++ tail) = .ok (n, tail) := by
  rw [short, trimFront_of_isDigit (head_padded 2 n tail),
    number_padded_width (by decide) hn (by decide) (by omega)]
  simp [within, hlow, hhigh, bind, Except.bind, pure, Except.pure]

/-- **A number of a fixed width is read back** if it is within the bounds. -/
theorem fixed_padded {width low high n : Nat} (hwidth : 0 < width) (hlow : low ≤ n)
    (hhigh : n ≤ high) (hn : n < 10 ^ width) (hsmall : n < 0x8000000000000000)
    (tail : List Char) :
    fixed width low high (Instant.padded width n ++ tail) = .ok (n, tail) := by
  rw [fixed, number_padded_width hwidth hn le_rfl hsmall]
  simp [within, hlow, hhigh, bind, Except.bind, pure, Except.pure]

/-! ## Years and fractions -/

/-- **A year is read back** in front of anything but a digit. -/
theorem year_yearText {y : Int} (hleast : firstYear ≤ y) (hgreatest : y ≤ lastYear)
    {tail : List Char} (htail : NoDigit tail) :
    year (Instant.yearText y ++ tail) = .ok (y, tail) := by
  unfold firstYear at hleast
  unfold lastYear at hgreatest
  have hrange : ¬ (y < -0x80000000 ∨ 0x80000000 ≤ y) := by omega
  have hsigned : number 1 none (Instant.padded 4 y.natAbs ++ tail) = .ok (y.natAbs, tail) :=
    number_padded (List.length_pos_iff.2 (padded_ne_nil 4 _)) (fun m hm => by cases hm)
      (.inr htail) (by omega)
  unfold Instant.yearText
  split_ifs with hplain hneg
  · have hnumber : number 1 (some 4) (Instant.padded 4 y.toNat ++ tail) = .ok (y.toNat, tail) :=
      number_padded_width (by decide) (by omega) (by decide) (by omega) tail
    have hy : (y.toNat : Int) = y := by omega
    have hhead := head_padded 4 y.toNat tail
    rw [year, trimFront_of_isDigit hhead]
    split
    · next heq => exact absurd (hhead '-' (by rw [heq]; rfl)) (by decide)
    · next heq => exact absurd (hhead '+' (by rw [heq]; rfl)) (by decide)
    · simp only [hnumber, hy, if_neg hrange, bind, Except.bind, pure, Except.pure]
  · have hy : -(y.natAbs : Int) = y := by omega
    have hfront : trimFront ('-' :: (Instant.padded 4 y.natAbs ++ tail)) =
        '-' :: (Instant.padded 4 y.natAbs ++ tail) := List.dropWhile_cons_of_neg (by decide)
    rw [List.cons_append, year, hfront]
    simp only [hsigned, hy, if_neg hrange, bind, Except.bind, pure, Except.pure]
  · have hy : (y.natAbs : Int) = y := by omega
    have hfront : trimFront ('+' :: (Instant.padded 4 y.natAbs ++ tail)) =
        '+' :: (Instant.padded 4 y.natAbs ++ tail) := List.dropWhile_cons_of_neg (by decide)
    rw [List.cons_append, year, hfront]
    simp only [hsigned, hy, if_neg hrange, bind, Except.bind, pure, Except.pure]

/-- Up to nine digits after a point are read back as nanoseconds. -/
theorem nanoseconds_padded {width n : Nat} (hwidth : 0 < width) (hwidth' : width ≤ 9)
    (hn : n < 10 ^ width) {tail : List Char} (htail : NoDigit tail) :
    nanoseconds (Instant.padded width n ++ tail) = .ok (n * 10 ^ (9 - width), tail) := by
  have hlength := length_padded hwidth hn
  have hbound : n < 10 ^ 9 := Nat.lt_of_lt_of_le hn (Nat.pow_le_pow_right (by decide) hwidth')
  have hnumber : number 1 (some 9) (Instant.padded width n ++ tail) = .ok (n, tail) :=
    number_padded (by omega) (fun m hm => by cases hm; omega) (.inr htail) (by omega)
  have hplaces : (Instant.padded width n ++ tail).length - tail.length = width := by
    rw [List.length_append, hlength, Nat.add_sub_cancel]
  have htail' : tail.dropWhile isDigit = tail := by
    cases tail with
    | nil => rfl
    | cons c rest =>
      exact List.dropWhile_cons_of_neg (by rw [isDigit_eq, htail c rfl]; decide)
  rw [nanoseconds, hnumber]
  simp only [bind, Except.bind, pure, Except.pure, hplaces, htail']
  rfl

/-- **A fraction is read back**, in as many digits as it has. -/
theorem fraction_fractionText (nanos : Nat) {tail : List Char}
    (htail : ∀ c ∈ tail.head?, c.isDigit = false ∧ c ≠ '.') :
    fraction (Instant.fractionText nanos ++ tail) = .ok (nanos % 1000000000, tail) := by
  have hdigits : ∀ width n, 0 < width → width ≤ 9 → n < 10 ^ width →
      n * 10 ^ (9 - width) = nanos % 1000000000 →
      fraction ('.' :: (Instant.padded width n ++ tail)) = .ok (nanos % 1000000000, tail) := by
    intro width n hwidth hwidth' hn hvalue
    rw [fraction, nanoseconds_padded hwidth hwidth' hn fun c hc => (htail c hc).1, hvalue]
  unfold Instant.fractionText
  dsimp only
  split_ifs with hzero hmillis hmicros
  · rw [hzero, List.nil_append, fraction]
    rintro rest rfl
    exact (htail '.' rfl).2 rfl
  · exact hdigits 3 _ (by decide) (by decide) (by omega) (by omega)
  · exact hdigits 6 _ (by decide) (by decide) (by omega) (by omega)
  · exact hdigits 9 _ (by decide) (by decide) (by omega) (by omega)

/-! ## Dates and times of day -/

/-- The numbers of a stamp are those of a calendar and a clock, in a year that is
kept. -/
structure Parts.InRange (p : Parts) : Prop where
  year : firstYear ≤ p.year ∧ p.year ≤ lastYear
  month : 1 ≤ p.month ∧ p.month ≤ 12
  day : 1 ≤ p.day ∧ p.day ≤ 31
  hour : p.hour ≤ 23
  minute : p.minute ≤ 59
  second : p.second ≤ 60

/-- Date and time of day with each number in its full width, in front of a
fraction. -/
def Parts.text (p : Parts) (fraction : List Char) : List Char :=
  Instant.yearText p.year ++ '-' :: Instant.padded 2 p.month ++ '-' :: Instant.padded 2 p.day ++
    'T' :: Instant.padded 2 p.hour ++ ':' :: Instant.padded 2 p.minute ++
    ':' :: Instant.padded 2 p.second ++ fraction

/-- **Date and time of day are read back** by the reader of free width, whatever
is allowed between them, if the fraction is. -/
theorem Parts.InRange.freeParts_text {p : Parts} (h : p.InRange) {gap : List Char → List Char}
    (hgap : ∀ c rest, c = '-' ∨ c = ':' → gap (c :: rest) = c :: rest)
    {between : List Char → Except StampError (List Char)}
    (hbetween : ∀ rest, between ('T' :: rest) = .ok rest) {f tail : List Char}
    (hfraction : fraction (f ++ tail) = .ok (p.nanos, tail)) :
    freeParts gap between (p.text f ++ tail) = .ok (p, tail) := by
  have hdash : ∀ rest, literal '-' (gap ('-' :: rest)) = .ok rest := fun rest => by
    rw [hgap _ _ (.inl rfl), literal, if_pos rfl]
  have hcolon : ∀ rest, literal ':' (gap (':' :: rest)) = .ok rest := fun rest => by
    rw [hgap _ _ (.inr rfl), literal, if_pos rfl]
  have hyear : ∀ rest, Stamp.year (Instant.yearText p.year ++ '-' :: rest) =
      .ok (p.year, '-' :: rest) := fun rest =>
    year_yearText h.year.1 h.year.2 (by rintro c ⟨⟩; decide)
  have hmonth := short_padded h.month.1 h.month.2 (by have := h.month.2; omega)
  have hday := short_padded h.day.1 h.day.2 (by have := h.day.2; omega)
  have hhour := short_padded (Nat.zero_le _) h.hour (by have := h.hour; omega)
  have hminute := short_padded (Nat.zero_le _) h.minute (by have := h.minute; omega)
  have hsecond := short_padded (Nat.zero_le _) h.second (by have := h.second; omega)
  unfold Parts.text freeParts
  simp only [List.append_assoc, List.cons_append, hyear, hdash, hmonth, hday, hbetween, hhour,
    hcolon, hminute, hsecond, hfraction, bind, Except.bind, pure, Except.pure]

/-- **They are read back** by the reader of full width too, in a year of four
digits. -/
theorem Parts.InRange.fixedParts_text {p : Parts} (h : p.InRange) (hyear₀ : 0 ≤ p.year)
    (hyear₁ : p.year ≤ 9999) {f tail : List Char}
    (hfraction : fraction (f ++ tail) = .ok (p.nanos, tail)) :
    fixedParts (p.text f ++ tail) = .ok (p, tail) := by
  have hyear : Instant.yearText p.year = Instant.padded 4 p.year.toNat :=
    if_pos ⟨hyear₀, hyear₁⟩
  have hfour := fixed_padded (by decide : 0 < 4) (Nat.zero_le _) (by omega : p.year.toNat ≤ 9999)
    (by omega) (by omega)
  have hmonth := fixed_padded (by decide : 0 < 2) h.month.1 h.month.2
    (by have := h.month.2; omega) (by have := h.month.2; omega)
  have hday := fixed_padded (by decide : 0 < 2) h.day.1 h.day.2
    (by have := h.day.2; omega) (by have := h.day.2; omega)
  have hhour := fixed_padded (by decide : 0 < 2) (Nat.zero_le _) h.hour
    (by have := h.hour; omega) (by have := h.hour; omega)
  have hminute := fixed_padded (by decide : 0 < 2) (Nat.zero_le _) h.minute
    (by have := h.minute; omega) (by have := h.minute; omega)
  have hsecond := fixed_padded (by decide : 0 < 2) (Nat.zero_le _) h.second
    (by have := h.second; omega) (by have := h.second; omega)
  have hliteral : ∀ c rest, literal c (c :: rest) = .ok rest := fun c rest => if_pos rfl
  have hbetween : ∀ rest, betweenDateAndTime ('T' :: rest) = .ok rest := fun _ => rfl
  have hcast : ((p.year.toNat : Nat) : Int) = p.year := Int.toNat_of_nonneg hyear₀
  unfold Parts.text fixedParts
  rw [hyear]
  simp only [List.append_assoc, List.cons_append, hfour, hliteral, hmonth, hday, hbetween, hhour,
    hminute, hsecond, hfraction, hcast, bind, Except.bind, pure, Except.pure]

/-! ## What is read -/

theorem nanos_lt_of_nanoseconds {cs rest : List Char} {n : Nat}
    (h : nanoseconds cs = .ok (n, rest)) : n < 1000000000 := by
  simp only [nanoseconds, bind_eq_ok_iff, Prod.exists] at h
  obtain ⟨digits, rest', hnumber, hn⟩ := h
  obtain ⟨ds, rfl, hdigit, hmost, rfl⟩ := number_eq_ok hnumber
  cases hn
  have hlength : ds.length ≤ 9 := hmost 9 rfl
  rw [List.length_append, Nat.add_sub_cancel]
  calc digitsValue ds * 10 ^ (9 - ds.length)
      < 10 ^ ds.length * 10 ^ (9 - ds.length) :=
        Nat.mul_lt_mul_of_pos_right (digitsValue_lt hdigit) (Nat.pow_pos (by decide))
    _ = 1000000000 := by rw [← Nat.pow_add, Nat.add_sub_cancel' hlength]

theorem nanos_lt_of_fraction {cs rest : List Char} {n : Nat} (h : fraction cs = .ok (n, rest)) :
    n < 1000000000 := by
  unfold fraction at h
  split at h
  · exact nanos_lt_of_nanoseconds h
  · cases h
    decide

/-- **A fraction is less than a second.** -/
theorem nanos_lt_of_freeParts {gap : List Char → List Char}
    {between : List Char → Except StampError (List Char)} {cs rest : List Char} {p : Parts}
    (h : freeParts gap between cs = .ok (p, rest)) : p.nanos < 1000000000 := by
  simp only [freeParts, bind_eq_ok_iff, Prod.exists] at h
  obtain ⟨year, _, -, _, -, month, _, -, _, -, day, _, -, _, -, hour, _, -, _, -, minute, _, -,
    _, -, second, _, -, nanos, _, hfraction, hp⟩ := h
  cases hp
  exact nanos_lt_of_fraction hfraction

/-- **An offset is of whole minutes.** -/
theorem emod_of_offset {separator : List Char → Except StampError (List Char)}
    {cs rest : List Char} {o : Int} (h : offset separator cs = .ok (o, rest)) : o % 60 = 0 := by
  unfold offset at h
  split at h
  · cases h
  split at h
  · cases h
    rfl
  split at h
  · simp only [bind_eq_ok_iff, Prod.exists] at h
    obtain ⟨hours, _, -, _, -, minutes, _, -, h⟩ := h
    split at h
    · cases h
    · cases h
      split_ifs <;> omega
  · cases h

theorem emod_of_lenientOffset {cs rest : List Char} {o : Int}
    (h : lenientOffset cs = .ok (o, rest)) : o % 60 = 0 := by
  unfold lenientOffset at h
  split_ifs at h
  · cases h
    rfl
  · exact emod_of_offset h

end Stamp

namespace Instant

/-! ## Instants -/

/-- **An instant that is kept**: its day is in a year that is kept, and a leap
second is the last one of its minute. -/
structure Kept (t : Instant) : Prop where
  first : (⟨firstYear, 1, 1⟩ : Date).toDays ≤ t.seconds / 86400
  last : t.seconds / 86400 ≤ (⟨lastYear, 12, 31⟩ : Date).toDays
  nanos : t.nanos < 1000000000 ∨ t.nanos < 2000000000 ∧ t.seconds % 60 = 59

/-- An instant in parts, as it is written. -/
def parts (t : Instant) : Stamp.Parts :=
  let date := Date.ofDays (t.seconds / 86400)
  let second := (t.seconds % 86400).toNat
  ⟨date.year, date.month, date.day, second / 3600, second / 60 % 60,
    second % 60 + t.nanos / 1000000000, t.nanos % 1000000000⟩

/-- **The parts of an instant are those of no other.** -/
theorem Kept.toInstant_parts {t : Instant} (h : t.Kept) : t.parts.toInstant 0 = .ok t := by
  obtain ⟨seconds, nanos⟩ := t
  obtain ⟨hfirst, hlast, hnanos⟩ := h
  dsimp only at hfirst hlast hnanos
  have hvalid := Date.valid_ofDays hfirst hlast
  have hdays := Date.toDays_ofDays (seconds / 86400)
  unfold parts Stamp.Parts.toInstant
  dsimp only
  rw [if_neg (not_not.2 hvalid), if_neg (by decide), hdays]
  -- a leap second is second 60, and no other second is
  have hleap : ((seconds % 86400).toNat % 60 + nanos / 1000000000 == 60) =
      decide (1000000000 ≤ nanos) := by
    rw [Bool.eq_iff_iff, beq_iff_eq, decide_eq_true_iff]
    omega
  have hsecond : (if decide (1000000000 ≤ nanos) = true then 59
      else (seconds % 86400).toNat % 60 + nanos / 1000000000) = (seconds % 86400).toNat % 60 := by
    split_ifs with hle <;> rw [decide_eq_true_iff] at hle <;> omega
  have hrest : nanos % 1000000000 +
      (if decide (1000000000 ≤ nanos) = true then 1000000000 else 0) = nanos := by
    split_ifs with hle <;> rw [decide_eq_true_iff] at hle <;> omega
  have hseconds : seconds / 86400 * 86400 + (((seconds % 86400).toNat / 3600 : Nat) * 3600 +
      ((seconds % 86400).toNat / 60 % 60 : Nat) * 60 +
        ((seconds % 86400).toNat % 60 : Nat)) - 0 = seconds := by
    omega
  rw [hleap, hsecond, hseconds, hrest, if_neg (by omega)]

/-- **An instant is read back in parts**, whatever is allowed between them, in
front of anything that does not go on with it. -/
theorem Kept.freeParts_localText {t : Instant} (h : t.Kept) {gap : List Char → List Char}
    (hgap : ∀ c rest, c = '-' ∨ c = ':' → gap (c :: rest) = c :: rest)
    {between : List Char → Except StampError (List Char)}
    (hbetween : ∀ rest, between ('T' :: rest) = .ok rest) {tail : List Char}
    (htail : ∀ c ∈ tail.head?, c.isDigit = false ∧ c ≠ '.') :
    Stamp.freeParts gap between (t.localText ++ tail) = .ok (t.parts, tail) := by
  have hrange : t.parts.InRange := by
    obtain ⟨hmonth, hmonth', hday, hday'⟩ := (Date.valid_ofDays h.first h.last).bounds
    have hnanos := h.nanos
    obtain ⟨hyear, hyear', -, -⟩ := Date.valid_ofDays h.first h.last
    exact ⟨⟨hyear, hyear'⟩, ⟨hmonth, hmonth'⟩, ⟨hday, hday'⟩, by dsimp only [parts]; omega,
      by dsimp only [parts]; omega, by dsimp only [parts]; omega⟩
  exact hrange.freeParts_text hgap hbetween (Stamp.fraction_fractionText t.nanos htail)

/-- **An instant is read back from its text**, to the nanosecond. -/
theorem Kept.ofLenientStamp_zuluText {t : Instant} (h : t.Kept) :
    ofLenientStamp t.zuluText = .ok t := by
  have hgap : ∀ c rest, c = '-' ∨ c = ':' → trimFront (c :: rest) = c :: rest := by
    rintro c rest (rfl | rfl) <;> exact List.dropWhile_cons_of_neg (by decide)
  have hparts : Stamp.freeParts trimFront Stamp.betweenDateAndTime (t.localText ++ ['Z']) =
      .ok (t.parts, ['Z']) :=
    h.freeParts_localText hgap (fun _ => rfl) (by rintro c ⟨⟩; decide)
  have hoffset : Stamp.lenientOffset (trimFront ['Z']) = .ok (0, []) := by decide
  rw [ofLenientStamp, zuluText, String.toList_ofList, hparts]
  simp only [bind, Except.bind, hoffset]
  exact h.toInstant_parts

/-- **What parts make is kept**, if they have a fraction of a second and are at
an offset of whole minutes. -/
theorem kept_of_toInstant {p : Stamp.Parts} {offset : Int} {t : Instant}
    (hnanos : p.nanos < 1000000000) (hoffset : offset % 60 = 0)
    (h : p.toInstant offset = .ok t) : t.Kept := by
  unfold Stamp.Parts.toInstant at h
  dsimp only at h
  split at h
  · cases h
  split at h
  · cases h
  by_cases hleap : (p.second == 60) = true
  · simp only [hleap, if_true] at h
    split at h
    · cases h
    · cases h
      exact ⟨by dsimp only; omega, by dsimp only; omega, .inr ⟨by dsimp only; omega, by
        dsimp only; omega⟩⟩
  · simp only [hleap, Bool.false_eq_true, if_false] at h
    split at h
    · cases h
    · cases h
      exact ⟨by dsimp only; omega, by dsimp only; omega, .inl hnanos⟩

/-- **What is read is kept.** -/
theorem kept_of_ofLenientStamp {s : String} {t : Instant} (h : ofLenientStamp s = .ok t) :
    t.Kept := by
  simp only [ofLenientStamp, bind_eq_ok_iff, Prod.exists] at h
  obtain ⟨parts, cs, hparts, offset, rest, hoffset, -, -, hinstant⟩ := h
  exact kept_of_toInstant (Stamp.nanos_lt_of_freeParts hparts) (Stamp.emod_of_lenientOffset hoffset)
    hinstant

end Instant

end Time

end Telemetry
