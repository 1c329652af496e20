import Mathlib.Tactic.SplitIfs
import Telemetry.Json.Document
import Telemetry.Json.Writer
import Telemetry.Proofs.Failure
/-!
# Json — literals that are read back

Strings and numbers as they are written, read back in front of whatever follows
them. A string says itself where it ends: each character is written so that it is
read as that character and no other (`literal_writeChar`), whatever it is. A
number goes on as far as it can, so what follows must not look like more of it
(`Halts`); then it is read as it is when nothing follows (`number_append`).
-/

namespace Telemetry

namespace Json

/-! ## Strings -/

/-- The value of a digit below sixteen is read back. -/
theorem hexDigit?_hexDigit {n : Nat} (h : n < 16) : hexDigit? (Text.hexDigit n) = some n := by
  decide +revert

/-- A control is read back from its four digits. -/
theorem hex4?_control {n : Nat} (h : n < 0x20) :
    hex4? '0' '0' (Text.hexDigit (n / 16)) (Text.hexDigit (n % 16)) = some n := by
  have hzero : hexDigit? '0' = some 0 := by decide
  have hhigh := hexDigit?_hexDigit (by omega : n / 16 < 16)
  have hlow := hexDigit?_hexDigit (Nat.mod_lt n (by decide : 16 > 0))
  simp only [hex4?, hzero, hhigh, hlow, Option.bind_eq_bind, Option.bind_some, Option.pure_def,
    Option.some.injEq]
  omega

/-- A one-letter escape is read as the character it stands for. -/
theorem literal_shortEscape {c e : Char} (h : shortEscape? c = some e) (acc tail : List Char) :
    literal none (.ok acc) ('\\' :: c :: tail) = literal none (.ok (e :: acc)) tail := by
  have hu : c ≠ 'u' := by
    rintro rfl
    cases h
  rw [literal]
  · simp [h, Sofar.unpaired, Sofar.push, Except.map]
  · simp [hu]
  · simp [hu]

/-- **A character is read back**, whether it stands for itself or is written as
an escape. -/
theorem literal_writeChar (c : Char) (acc tail : List Char) :
    literal none (.ok acc) (writeChar c ++ tail) = literal none (.ok (c :: acc)) tail := by
  unfold writeChar
  split_ifs with hquote hslash hback hform hline hreturn htab hcontrol
  · subst hquote
    exact literal_shortEscape rfl acc tail
  · subst hslash
    exact literal_shortEscape rfl acc tail
  · subst hback
    exact literal_shortEscape rfl acc tail
  · subst hform
    exact literal_shortEscape rfl acc tail
  · subst hline
    exact literal_shortEscape rfl acc tail
  · subst hreturn
    exact literal_shortEscape rfl acc tail
  · subst htab
    exact literal_shortEscape rfl acc tail
  · -- a control: its code is no half of a pair
    have hleading : isLeading c.toNat = false := by simp [isLeading]; omega
    have hclosing : isClosing c.toNat = false := by simp [isClosing]; omega
    simp only [List.cons_append, List.nil_append, literal, hex4?_control hcontrol, Sofar.unit,
      hleading, hclosing]
    simp [Sofar.push, Except.map]
  · rw [List.singleton_append, literal]
    · simp [hcontrol, Sofar.unpaired, Sofar.push, Except.map]
    · exact hquote
    all_goals simp [hslash]

/-- **A string is read back** from behind its opening quote. -/
theorem literal_flatMap_writeChar (cs acc tail : List Char) :
    literal none (.ok acc) (cs.flatMap writeChar ++ '"' :: tail) =
      .closed (.ok (String.ofList (acc.reverse ++ cs))) tail := by
  induction cs generalizing acc with
  | nil => simp [literal, Sofar.unpaired, Except.map]
  | cons c rest ih =>
    rw [List.flatMap_cons, List.append_assoc, literal_writeChar, ih]
    simp

/-! ## Digits -/

theorem digit?_of_isDigit {c : Char} (h : c.isDigit = true) : digit? c = some (c.toNat - 48) := by
  rw [Char.isDigit_iff_toNat] at h
  have hrange : ('0' ≤ c && c ≤ '9') = true := by
    simp only [Bool.and_eq_true, decide_eq_true_eq, Char.le_def, UInt32.le_iff_toNat_le]
    exact h
  rw [digit?, if_pos hrange]

/-- Digits are read as far as they go. -/
theorem digits_of_isDigit {cs : List Char} (h : ∀ c ∈ cs, c.isDigit = true) :
    digits cs = (cs.map fun c => c.toNat - 48, []) := by
  induction cs with
  | nil => rfl
  | cons c rest ih =>
    simp only [digits, digit?_of_isDigit (h c List.mem_cons_self),
      ih fun c hc => h c (List.mem_cons_of_mem _ hc), List.map_cons]

/-- The digits of a number, as they are read. -/
def digitsOf (n : Nat) : List Nat := (Nat.toDigits 10 n).map fun c => c.toNat - 48

theorem digits_toDigits (n : Nat) : digits (Nat.toDigits 10 n) = (digitsOf n, []) :=
  digits_of_isDigit fun _ => Nat.isDigit_of_mem_toDigits (by decide) (by decide)

theorem digitsOf_ne_nil (n : Nat) : digitsOf n ≠ [] := by
  simp [digitsOf, Nat.toDigits_ne_nil]

/-- **Digits are put together** to the number they are of. -/
theorem foldl_digitsOf (n : Nat) : (digitsOf n).foldl (fun m d => m * 10 + d) 0 = n := by
  have hvalue := Nat.ofDigitChars_toDigits (b := 10) (n := n) (by decide) (by decide)
  have hzero : '0'.toNat = 48 := rfl
  rw [Nat.ofDigitChars, hzero] at hvalue
  rw [digitsOf, List.foldl_map]
  simpa only [Nat.mul_comm] using hvalue

/-- A leading zero stands alone. -/
theorem digitsOf_ne_zero_cons (n d : Nat) (ds : List Nat) : digitsOf n ≠ 0 :: d :: ds := by
  induction n using Nat.strongRecOn generalizing d ds with
  | ind n ih =>
    by_cases hsmall : n < 10
    · rw [digitsOf, Nat.toDigits_of_lt_base hsmall]
      simp
    · intro h
      rw [digitsOf, Nat.toDigits_of_base_le (by decide) (by omega), List.map_append] at h
      -- the digits before the last are those of a smaller number, that is not zero
      cases hrest : digitsOf (n / 10) with
      | nil => exact digitsOf_ne_nil _ hrest
      | cons first rest =>
        rw [← digitsOf, hrest, List.cons_append, List.cons.injEq] at h
        obtain ⟨rfl, h⟩ := h
        cases rest with
        | nil =>
          have hzero := foldl_digitsOf (n / 10)
          rw [hrest] at hzero
          simp at hzero
          omega
        | cons d' rest => exact ih (n / 10) (by omega) d' rest hrest

/-! ## Significands -/

theorem le_foldl_digits (s : Nat) (ds : List Nat) : s ≤ ds.foldl (fun m d => m * 10 + d) s := by
  induction ds generalizing s with
  | nil => exact Nat.le_refl s
  | cons d rest ih =>
    have hrest := ih (s * 10 + d)
    rw [List.foldl_cons]
    omega

/-- All digits are taken if the number they make fits. -/
theorem takeDigits_of_lt {s : Nat} {ds : List Nat}
    (h : ds.foldl (fun m d => m * 10 + d) s < 0x10000000000000000) :
    Numeral.takeDigits s ds = (ds.foldl (fun m d => m * 10 + d) s, []) := by
  induction ds generalizing s with
  | nil => rfl
  | cons d rest ih =>
    rw [List.foldl_cons] at h ⊢
    have hle := le_foldl_digits (s * 10 + d) rest
    rw [Numeral.takeDigits, if_pos (by omega), ih h]

/-! ## Numbers -/

/-- **What a number is made of**: digits, of which a leading zero stands alone,
and perhaps a fraction and an exponent. -/
theorem number_eq_ok_iff {negative : Bool} {cs rest : List Char} {n : Numeral} :
    number negative cs = .ok (n, rest) ↔
      (digits cs).1 ≠ [] ∧ (∀ d ds, (digits cs).1 ≠ 0 :: d :: ds) ∧
        ∃ fraction r exponent, fractionPart (digits cs).2 = .ok (fraction, r) ∧
          exponentPart r = .ok (exponent, rest) ∧
            n = ⟨negative, (digits cs).1, fraction, exponent⟩ := by
  have hparts : ∀ whole r₀, (fractionPart r₀ >>= fun f => exponentPart f.2 >>= fun e =>
      Except.ok ((⟨negative, whole, f.1, e.1⟩ : Numeral), e.2)) = Except.ok (n, rest) ↔
        ∃ fraction r exponent, fractionPart r₀ = .ok (fraction, r) ∧
          exponentPart r = .ok (exponent, rest) ∧ n = ⟨negative, whole, fraction, exponent⟩ := by
    intro whole r₀
    simp only [bind_eq_ok_iff, Prod.exists]
    constructor
    · rintro ⟨fraction, r, hf, exponent, r', he, h⟩
      cases h
      exact ⟨fraction, r, exponent, hf, he, rfl⟩
    · rintro ⟨fraction, r, exponent, hf, he, rfl⟩
      exact ⟨fraction, r, hf, exponent, rest, he, rfl⟩
  unfold number
  cases digits cs with
  | mk ds r₀ =>
    cases ds with
    | nil => simp
    | cons d ds =>
      cases ds with
      | nil =>
        cases d <;> exact (hparts _ r₀).trans (by simp)
      | cons d' ds =>
        cases d with
        | zero => simp
        | succ d => exact (hparts _ r₀).trans (by simp)

/-- **A natural number is read back**, after a sign or without one. -/
theorem number_toDigits (negative : Bool) (n : Nat) :
    number negative (Nat.toDigits 10 n) = .ok (⟨negative, digitsOf n, none, none⟩, []) := by
  rw [number_eq_ok_iff, digits_toDigits]
  exact ⟨digitsOf_ne_nil n, digitsOf_ne_zero_cons n, none, [], none, rfl, rfl, rfl⟩

/-- What a written integer stands for: itself, if it fits. -/
theorem value_digitsOf {n : Nat} (h : n < 0x10000000000000000) :
    Numeral.value ⟨false, digitsOf n, none, none⟩ = some (.int n) := by
  have htake : Numeral.takeDigits 0 (digitsOf n) = (n, []) := by
    rw [takeDigits_of_lt (by rwa [foldl_digitsOf]), foldl_digitsOf]
  simp [Numeral.value, htake]

theorem value_negative_digitsOf {n : Nat} (hpos : 0 < n) (h : n ≤ 0x8000000000000000) :
    Numeral.value ⟨true, digitsOf n, none, none⟩ = some (.int (-n)) := by
  have htake : Numeral.takeDigits 0 (digitsOf n) = (n, []) := by
    rw [takeDigits_of_lt (by rw [foldl_digitsOf]; omega), foldl_digitsOf]
  have hne : n ≠ 0 := by omega
  simp [Numeral.value, htake, hne, Nat.not_lt.2 h]

/-! ## What follows a number -/

/-- A text that does not go on with a number that ends before it. -/
def Halts (tail : List Char) : Prop :=
  ∀ c ∈ tail.head?, digit? c = none ∧ c ≠ '.' ∧ c ≠ 'e' ∧ c ≠ 'E'

variable {tail : List Char}

theorem Halts.no_digit (h : Halts tail) : ∀ c ∈ tail.head?, digit? c = none :=
  fun c hc => (h c hc).1

/-- Digits are read as they are in front of anything but a digit. -/
theorem digits_append (h : ∀ c ∈ tail.head?, digit? c = none) (cs : List Char) :
    digits (cs ++ tail) = ((digits cs).1, (digits cs).2 ++ tail) := by
  induction cs with
  | nil =>
    cases tail with
    | nil => rfl
    | cons c rest => simp [digits, h c rfl]
  | cons c rest ih =>
    cases hd : digit? c with
    | none => simp [digits, hd]
    | some d => simp [digits, hd, ih]

theorem fractionPart_of_ne {c : Char} (hc : c ≠ '.') (rest : List Char) :
    fractionPart (c :: rest) = .ok (none, c :: rest) := by
  rw [fractionPart]
  rintro rest' ⟨⟩
  exact hc rfl

/-- A point is followed by digits. -/
theorem fractionPart_eq_ok_iff {cs rest : List Char} {f : Option (List Nat)} :
    fractionPart ('.' :: cs) = .ok (f, rest) ↔
      (digits cs).1 ≠ [] ∧ (some (digits cs).1, (digits cs).2) = (f, rest) := by
  rw [fractionPart]
  cases digits cs with
  | mk ds r => cases ds <;> simp

theorem fractionPart_append (h : Halts tail) {cs rest : List Char} {f : Option (List Nat)}
    (hcs : fractionPart cs = .ok (f, rest)) :
    fractionPart (cs ++ tail) = .ok (f, rest ++ tail) := by
  cases cs with
  | nil =>
    cases hcs
    cases tail with
    | nil => rfl
    | cons c rest => exact fractionPart_of_ne (h c rfl).2.1 rest
  | cons c r =>
    by_cases hc : c = '.'
    · subst hc
      obtain ⟨hne, heq⟩ := fractionPart_eq_ok_iff.1 hcs
      cases heq
      rw [List.cons_append, fractionPart_eq_ok_iff, digits_append h.no_digit]
      exact ⟨hne, rfl⟩
    · rw [fractionPart_of_ne hc] at hcs
      cases hcs
      exact fractionPart_of_ne hc _

/-- The sign of an exponent, and what follows it. -/
def exponentSign : List Char → Bool × List Char
  | [] => (false, [])
  | c :: rest =>
    if c = '+' then (false, rest) else if c = '-' then (true, rest) else (false, c :: rest)

theorem exponentSign_append {cs : List Char} (hcs : cs ≠ []) (tail : List Char) :
    exponentSign (cs ++ tail) = ((exponentSign cs).1, (exponentSign cs).2 ++ tail) := by
  obtain ⟨c, rest, rfl⟩ := List.exists_cons_of_ne_nil hcs
  simp only [List.cons_append, exponentSign]
  split_ifs <;> rfl

theorem exponentPart_of_ne {c : Char} (hc : ¬ (c = 'e' ∨ c = 'E')) (rest : List Char) :
    exponentPart (c :: rest) = .ok (none, c :: rest) := by
  simp [exponentPart, hc]

/-- The letter of an exponent is followed by digits, perhaps after a sign. -/
theorem exponentPart_eq_ok_iff {c : Char} (hc : c = 'e' ∨ c = 'E') {cs rest : List Char}
    {e : Option (Bool × List Nat)} :
    exponentPart (c :: cs) = .ok (e, rest) ↔ (digits (exponentSign cs).2).1 ≠ [] ∧
      (some ((exponentSign cs).1, (digits (exponentSign cs).2).1), (digits (exponentSign cs).2).2) =
        (e, rest) := by
  have hletter : (c == 'e' || c == 'E') = true := by simpa using hc
  unfold exponentPart
  dsimp only
  rw [if_pos hletter]
  cases cs with
  | nil => simp [exponentSign, digits]
  | cons d cs =>
    by_cases hplus : d = '+'
    · subst hplus
      simp only [exponentSign, if_true]
      cases digits cs with
      | mk ds r => cases ds <;> simp
    · by_cases hminus : d = '-'
      · subst hminus
        simp only [exponentSign, hplus, if_true, if_false]
        cases digits cs with
        | mk ds r => cases ds <;> simp
      · simp only [exponentSign, hplus, hminus, if_false]
        cases hd : digits (d :: cs) with
        | mk ds r => cases ds <;> simp [hplus, hminus, hd]

theorem exponentPart_append (h : Halts tail) {cs rest : List Char} {e : Option (Bool × List Nat)}
    (hcs : exponentPart cs = .ok (e, rest)) :
    exponentPart (cs ++ tail) = .ok (e, rest ++ tail) := by
  cases cs with
  | nil =>
    cases hcs
    cases tail with
    | nil => rfl
    | cons c rest =>
      obtain ⟨-, -, he, hE⟩ := h c rfl
      exact exponentPart_of_ne (not_or.2 ⟨he, hE⟩) rest
  | cons c r =>
    by_cases hc : c = 'e' ∨ c = 'E'
    · obtain ⟨hne, heq⟩ := (exponentPart_eq_ok_iff hc).1 hcs
      cases heq
      have hr : r ≠ [] := by
        rintro rfl
        exact hne rfl
      rw [List.cons_append, exponentPart_eq_ok_iff hc, exponentSign_append hr,
        digits_append h.no_digit]
      exact ⟨hne, rfl⟩
    · rw [exponentPart_of_ne hc] at hcs
      cases hcs
      exact exponentPart_of_ne hc _

/-- **A number is read as it is** in front of anything that does not look like
more of it. -/
theorem number_append (h : Halts tail) {negative : Bool} {cs rest : List Char} {n : Numeral}
    (hcs : number negative cs = .ok (n, rest)) :
    number negative (cs ++ tail) = .ok (n, rest ++ tail) := by
  obtain ⟨hne, hzero, f, r, e, hf, he, hn⟩ := number_eq_ok_iff.1 hcs
  rw [number_eq_ok_iff, digits_append h.no_digit]
  exact ⟨hne, hzero, f, r ++ tail, e, fractionPart_append h hf, exponentPart_append h he, hn⟩

end Json

end Telemetry
