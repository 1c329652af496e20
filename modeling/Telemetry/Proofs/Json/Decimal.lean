import Telemetry.Number.Shortest
import Telemetry.Proofs.Json.Lexical
/-!
# Json — decimals are numbers

A binary64 number is written as a decimal, with a point or with an exponent.
Whichever it is, the text is one number and nothing else
(`exists_number_decimal`). What that number stands for is another question.
-/

namespace Telemetry

namespace Json

/-! ## The parts of a number -/

/-- The values of some digits. -/
abbrev digitValues (cs : List Char) : List Nat := cs.map fun c => c.toNat - 48

/-- The digits before the point: there are some, and a leading zero stands
alone. -/
structure Whole (cs : List Char) : Prop where
  digit : ∀ c ∈ cs, c.isDigit = true
  ne_nil : cs ≠ []
  leading : ∀ d ds, digitValues cs ≠ 0 :: d :: ds

/-- Some digits, at least one. -/
structure Digits (cs : List Char) : Prop where
  digit : ∀ c ∈ cs, c.isDigit = true
  ne_nil : cs ≠ []

/-- A point with the digits after it, or nothing. -/
def Fraction (cs : List Char) : Prop := cs = [] ∨ ∃ ds, cs = '.' :: ds ∧ Digits ds

/-- An exponent with its sign, or nothing. -/
def Exponent (cs : List Char) : Prop :=
  cs = [] ∨ ∃ (sign : Char) (ds : List Char), cs = 'e' :: sign :: ds ∧ (sign = '-' ∨ sign = '+') ∧
    Digits ds

variable {whole fraction exponent ds tail : List Char}

theorem digits_isDigit_append (h : ∀ c ∈ ds, c.isDigit = true)
    (htail : ∀ c ∈ tail.head?, digit? c = none) : digits (ds ++ tail) = (digitValues ds, tail) := by
  rw [digits_append htail, digits_of_isDigit h]
  rfl

theorem Exponent.head (h : Exponent exponent) :
    ∀ c ∈ exponent.head?, digit? c = none ∧ c ≠ '.' := by
  rcases h with rfl | ⟨sign, ds, rfl, -⟩
  · simp
  · rintro c ⟨⟩
    decide

theorem Fraction.head (h : Fraction fraction) (he : Exponent exponent) :
    ∀ c ∈ (fraction ++ exponent).head?, digit? c = none := by
  rcases h with rfl | ⟨ds, rfl, -⟩
  · exact fun c hc => (he.head c hc).1
  · rintro c ⟨⟩
    decide

theorem Exponent.exists_exponentPart (h : Exponent exponent) :
    ∃ e, exponentPart exponent = .ok (e, []) := by
  rcases h with rfl | ⟨sign, ds, rfl, hsign, hds⟩
  · exact ⟨none, rfl⟩
  · have hrest : (exponentSign (sign :: ds)).2 = ds := by
      rcases hsign with rfl | rfl <;> rfl
    refine ⟨_, (exponentPart_eq_ok_iff (.inl rfl)).2 ⟨?_, Prod.ext rfl ?_⟩⟩
    · rw [hrest, digits_of_isDigit hds.digit]
      simpa using hds.ne_nil
    · rw [hrest, digits_of_isDigit hds.digit]

theorem Fraction.exists_fractionPart (h : Fraction fraction) (he : Exponent exponent) :
    ∃ f, fractionPart (fraction ++ exponent) = .ok (f, exponent) := by
  rcases h with rfl | ⟨ds, rfl, hds⟩
  · cases exponent with
    | nil => exact ⟨none, rfl⟩
    | cons c rest => exact ⟨none, fractionPart_of_ne (he.head c rfl).2 rest⟩
  · have hdigits := digits_isDigit_append hds.digit fun c hc => (he.head c hc).1
    refine ⟨some (digitValues ds), ?_⟩
    rw [List.cons_append, fractionPart_eq_ok_iff, hdigits]
    exact ⟨by simpa using hds.ne_nil, rfl⟩

/-- **Parts that are put together** are read as one number. -/
theorem exists_number (hw : Whole whole) (hf : Fraction fraction) (he : Exponent exponent)
    (negative : Bool) :
    ∃ n, number negative (whole ++ (fraction ++ exponent)) = .ok (n, []) := by
  have hdigits := digits_isDigit_append hw.digit (hf.head he)
  obtain ⟨f, hfraction⟩ := hf.exists_fractionPart he
  obtain ⟨e, hexponent⟩ := he.exists_exponentPart
  refine ⟨⟨negative, digitValues whole, f, e⟩, ?_⟩
  rw [number_eq_ok_iff, hdigits]
  exact ⟨by simpa using hw.ne_nil, hw.leading, f, exponent, e, hfraction, hexponent, rfl⟩

/-! ## The parts of a decimal -/

theorem Digits.of_toDigits (n : Nat) : Digits (Nat.toDigits 10 n) where
  digit c := Nat.isDigit_of_mem_toDigits (by decide) (by decide)
  ne_nil := Nat.toDigits_ne_nil

theorem Digits.append (h : Digits ds) (htail : ∀ c ∈ tail, c.isDigit = true) :
    Digits (ds ++ tail) where
  digit c hc := (List.mem_append.1 hc).elim (h.digit c) (htail c)
  ne_nil := List.append_ne_nil_of_left_ne_nil h.ne_nil tail

theorem isDigit_of_mem_zeros {n : Nat} : ∀ c ∈ List.replicate n '0', c.isDigit = true := by
  intro c hc
  rw [List.eq_of_mem_replicate hc]
  decide

/-- A number other than zero has no leading zero. -/
theorem head_toDigits {n : Nat} (hn : n ≠ 0) :
    ∀ c ∈ (Nat.toDigits 10 n).head?, c.toNat - 48 ≠ 0 := by
  intro c hc hzero
  obtain ⟨cs, hcs⟩ := List.head?_eq_some_iff.1 hc
  have hds : digitsOf n = 0 :: digitValues cs := by rw [digitsOf, hcs, List.map_cons, hzero]
  cases cs with
  | nil =>
    have hvalue := foldl_digitsOf n
    rw [hds] at hvalue
    exact hn hvalue.symm
  | cons c' cs => exact digitsOf_ne_zero_cons n _ _ hds

theorem exponent_exponentText (f : DecimalStyle) (e : Int) : Exponent (f.exponentText e) := by
  refine .inr ⟨_, _, rfl, ?_, ?_, ?_⟩
  · split
    · exact .inl rfl
    · exact .inr rfl
  · intro c hc
    rcases List.mem_append.1 hc with hc | hc
    · exact isDigit_of_mem_zeros c hc
    · exact (Digits.of_toDigits _).digit c hc
  · exact List.append_ne_nil_of_right_ne_nil _ Nat.toDigits_ne_nil

/-- Digits of which the first is no zero go before a point. -/
theorem whole_of_head (h : Digits ds) (hhead : ∀ c ∈ ds.head?, c.toNat - 48 ≠ 0) : Whole ds := by
  refine ⟨h.digit, h.ne_nil, fun d rest hzero => ?_⟩
  cases ds with
  | nil => cases hzero
  | cons c ds => exact hhead c rfl (List.cons.inj hzero).1

/-- A zero that stands alone goes before a point. -/
theorem whole_zero : Whole ['0'] := ⟨by simp, by simp, by simp [digitValues]⟩

/-- **A decimal is made of the parts of a number.** -/
theorem exists_parts (f : DecimalStyle) (d : Decimal) :
    ∃ whole fraction exponent, f.decimal d = whole ++ (fraction ++ exponent) ∧
      Whole whole ∧ Fraction fraction ∧ Exponent exponent := by
  by_cases hzero : d.digits = 0
  · refine ⟨['0'], ['.', '0'], [], by simp [DecimalStyle.decimal, hzero], whole_zero, ?_, .inl rfl⟩
    exact .inr ⟨['0'], rfl, by simp, by simp⟩
  have hdigits : Digits (DecimalStyle.digits d.digits) := Digits.of_toDigits d.digits
  have hhead : ∀ c ∈ (DecimalStyle.digits d.digits).head?, c.toNat - 48 ≠ 0 := head_toDigits hzero
  unfold DecimalStyle.decimal
  rw [if_neg hzero]
  generalize DecimalStyle.digits d.digits = ds at hdigits hhead
  obtain ⟨c, rest, rfl⟩ := List.exists_cons_of_ne_nil hdigits.ne_nil
  dsimp only
  split_ifs with hscientific hround hpoint
  · -- one digit before the point, and an exponent
    have hwhole : Whole [c] :=
      whole_of_head ⟨by simpa using hdigits.digit c List.mem_cons_self, by simp⟩ hhead
    cases rest with
    | nil => exact ⟨[c], [], _, rfl, hwhole, .inl rfl, exponent_exponentText f _⟩
    | cons c' rest =>
      refine ⟨[c], '.' :: c' :: rest, _, rfl, hwhole, .inr ⟨_, rfl, ?_, by simp⟩,
        exponent_exponentText f _⟩
      exact fun x hx => hdigits.digit x (List.mem_cons_of_mem _ hx)
  · -- a whole number
    refine ⟨c :: rest ++ List.replicate d.exponent.toNat '0', ['.', '0'], [], rfl, ?_, ?_, .inl rfl⟩
    · exact whole_of_head (hdigits.append isDigit_of_mem_zeros) hhead
    · exact .inr ⟨['0'], rfl, by simp, by simp⟩
  · -- the point between the digits
    rw [List.length_cons] at hpoint ⊢
    generalize hlead : (d.exponent + ↑(rest.length + 1) - 1).toNat = lead
    have hlt : lead + 1 < (c :: rest).length := by rw [List.length_cons]; omega
    refine ⟨(c :: rest).take (lead + 1), '.' :: (c :: rest).drop (lead + 1), [], by simp, ?_, ?_,
      .inl rfl⟩
    · exact whole_of_head ⟨fun x hx => hdigits.digit x (List.mem_of_mem_take hx), by simp⟩ hhead
    · exact .inr ⟨_, rfl, fun x hx => hdigits.digit x (List.mem_of_mem_drop hx),
        fun h => absurd (List.drop_eq_nil_iff.1 h) (by omega)⟩
  · -- the point before them
    refine ⟨['0'], '.' :: (List.replicate _ '0' ++ c :: rest), [], by rw [List.append_nil]; rfl,
      whole_zero, ?_, .inl rfl⟩
    refine .inr ⟨_, rfl, fun x hx => ?_, List.append_ne_nil_of_right_ne_nil _ hdigits.ne_nil⟩
    exact (List.mem_append.1 hx).elim (isDigit_of_mem_zeros x) (hdigits.digit x)

/-- **A decimal is read as one number**, after a sign or without one. -/
theorem exists_number_decimal (f : DecimalStyle) (d : Decimal) (negative : Bool) :
    ∃ c rest n, f.decimal d = c :: rest ∧ c.isDigit = true ∧
      number negative (c :: rest) = .ok (n, []) := by
  obtain ⟨whole, fraction, exponent, hparts, hw, hf, he⟩ := exists_parts f d
  obtain ⟨n, hn⟩ := exists_number hw hf he negative
  obtain ⟨c, rest, rfl⟩ := List.exists_cons_of_ne_nil hw.ne_nil
  exact ⟨c, rest ++ (fraction ++ exponent), n, hparts, hw.digit c List.mem_cons_self, hn⟩

end Json

end Telemetry
