import Mathlib.Tactic.SplitIfs
import Telemetry.Text.Utf8
/-!
# Text — UTF-8 is read back

The bytes of a character are taken off the front as that character, whatever
follows them (`next_utf8EncodeChar`). So what a text is written as is read as
that text, by the strict reader and by the one that replaces
(`decodeStrict_encode`, `decodeLossy_encode`).
-/

namespace Telemetry

namespace Text

/-! ## One character -/

/-- A trailing byte is one, -/
theorem isTrailing_ofNat (n : Nat) : isTrailing (UInt8.ofNat (n % 64 + 128)) = true := by
  simp only [isTrailing, UInt8.le_iff_toNat_le, UInt8.toNat_ofNat', UInt8.reduceToNat,
    Bool.and_eq_true, decide_eq_true_eq]
  omega

/-- and carries six bits. -/
theorem payload_ofNat (n : Nat) : payload (UInt8.ofNat (n % 64 + 128)) = n % 64 := by
  rw [payload, UInt8.toNat_ofNat']
  omega

/-! What a lead byte and those behind it come to, by their number. -/

section next

variable {lead b c d : UInt8} {rest : List UInt8}

theorem next_one (h : lead.toNat < 0x80) :
    next lead rest = (some (Char.ofNat lead.toNat), 1) := by
  unfold next
  rw [if_pos (UInt8.lt_iff_toNat_lt.2 h)]

theorem next_two (h : 0xC2 ≤ lead.toNat ∧ lead.toNat ≤ 0xDF) (hb : isTrailing b = true) :
    next lead (b :: rest) = (some (Char.ofNat (lead.toNat % 32 * 64 + payload b)), 2) := by
  simp only [next, UInt8.lt_iff_toNat_lt, UInt8.le_iff_toNat_le, UInt8.reduceToNat,
    Bool.and_eq_true, decide_eq_true_eq]
  rw [if_neg (by omega), if_pos h]
  simp only [hb, if_true]

theorem next_three (h : 0xE0 ≤ lead.toNat ∧ lead.toNat ≤ 0xEF) (hb : allowsSecond lead b = true)
    (hc : isTrailing c = true) :
    next lead (b :: c :: rest) =
      (some (Char.ofNat ((lead.toNat % 16 * 64 + payload b) * 64 + payload c)), 3) := by
  simp only [next, UInt8.lt_iff_toNat_lt, UInt8.le_iff_toNat_le, UInt8.reduceToNat,
    Bool.and_eq_true, decide_eq_true_eq]
  rw [if_neg (by omega), if_neg (by omega), if_pos h]
  simp only [hb, hc, if_true]

theorem next_four (h : 0xF0 ≤ lead.toNat ∧ lead.toNat ≤ 0xF4) (hb : allowsSecond lead b = true)
    (hc : isTrailing c = true) (hd : isTrailing d = true) :
    next lead (b :: c :: d :: rest) =
      (some (Char.ofNat
        (((lead.toNat % 8 * 64 + payload b) * 64 + payload c) * 64 + payload d)), 4) := by
  simp only [next, UInt8.lt_iff_toNat_lt, UInt8.le_iff_toNat_le, UInt8.reduceToNat,
    Bool.and_eq_true, decide_eq_true_eq]
  rw [if_neg (by omega), if_neg (by omega), if_neg (by omega), if_pos h]
  simp only [hb, hc, hd, if_true]

/-- The second byte must not make the scalar too small for its length, a surrogate,
or too great. -/
theorem allowsSecond_iff (lead : UInt8) (hb : isTrailing b = true) :
    allowsSecond lead b = true ↔ (lead.toNat = 0xE0 → 0xA0 ≤ b.toNat) ∧
      (lead.toNat = 0xED → b.toNat ≤ 0x9F) ∧ (lead.toNat = 0xF0 → 0x90 ≤ b.toNat) ∧
      (lead.toNat = 0xF4 → b.toNat ≤ 0x8F) := by
  simp only [isTrailing, UInt8.le_iff_toNat_le, UInt8.reduceToNat, Bool.and_eq_true,
    decide_eq_true_eq] at hb
  simp only [allowsSecond, isTrailing, ← UInt8.toNat_inj, UInt8.le_iff_toNat_le, UInt8.reduceToNat]
  split_ifs <;> simp only [Bool.and_eq_true, decide_eq_true_eq] <;> omega

end next

/-- **The bytes of a character** are taken off the front as that character,
whatever follows. -/
theorem next_utf8EncodeChar (c : Char) (rest : List UInt8) :
    ∃ lead more, String.utf8EncodeChar c = lead :: more ∧
      next lead (more ++ rest) = (some c, more.length + 1) := by
  have hscalar : c.toNat < 55296 ∨ 57343 < c.toNat ∧ c.toNat < 1114112 := c.valid
  have hread : Char.ofNat c.toNat = c := Char.ofNat_toNat c
  have hbytes : String.utf8EncodeChar c = _ := String.utf8EncodeChar.eq_1 c
  rw [Char.toNat_val] at hbytes
  rw [hbytes]
  generalize c.toNat = n at hscalar hread
  split_ifs with h1 h2 h3
  · have hlead : (UInt8.ofNat n).toNat = n := by
      rw [UInt8.toNat_ofNat']
      omega
    exact ⟨_, _, rfl, by rw [next_one (by omega), hlead, hread]; rfl⟩
  · have hlead : (UInt8.ofNat (n / 64 % 32 + 192)).toNat = n / 64 + 192 := by
      rw [UInt8.toNat_ofNat']
      omega
    refine ⟨_, _, rfl, (next_two (by omega) (isTrailing_ofNat _)).trans ?_⟩
    have hn : (n / 64 + 192) % 32 * 64 + n % 64 = n := by omega
    rw [hlead, payload_ofNat, hn, hread]
    rfl
  · have hlead : (UInt8.ofNat (n / 4096 % 16 + 224)).toNat = n / 4096 + 224 := by
      rw [UInt8.toNat_ofNat']
      omega
    have hsecond : (UInt8.ofNat (n / 64 % 64 + 128)).toNat = n / 64 % 64 + 128 := by
      rw [UInt8.toNat_ofNat']
      omega
    have hallowed := (allowsSecond_iff (UInt8.ofNat (n / 4096 % 16 + 224))
      (isTrailing_ofNat (n / 64))).2 (by omega)
    refine ⟨_, _, rfl, (next_three (by omega) hallowed (isTrailing_ofNat _)).trans ?_⟩
    have hn : ((n / 4096 + 224) % 16 * 64 + n / 64 % 64) * 64 + n % 64 = n := by omega
    rw [hlead, payload_ofNat, payload_ofNat, hn, hread]
    rfl
  · have hlead : (UInt8.ofNat (n / 262144 % 8 + 240)).toNat = n / 262144 + 240 := by
      rw [UInt8.toNat_ofNat']
      omega
    have hsecond : (UInt8.ofNat (n / 4096 % 64 + 128)).toNat = n / 4096 % 64 + 128 := by
      rw [UInt8.toNat_ofNat']
      omega
    have hallowed := (allowsSecond_iff (UInt8.ofNat (n / 262144 % 8 + 240))
      (isTrailing_ofNat (n / 4096))).2 (by omega)
    refine ⟨_, _, rfl,
      (next_four (by omega) hallowed (isTrailing_ofNat _) (isTrailing_ofNat _)).trans ?_⟩
    have hn : (((n / 262144 + 240) % 8 * 64 + n / 4096 % 64) * 64 + n / 64 % 64) * 64 + n % 64 =
        n := by omega
    rw [hlead, payload_ofNat, payload_ofNat, payload_ofNat, hn, hread]
    rfl

/-! ## Texts -/

/-- The bytes of an array from some place on. -/
theorem loop_eq (bs : ByteArray) (i : Nat) (r : List UInt8) :
    ByteArray.toList.loop bs i r = r.reverse ++ bs.data.toList.drop i := by
  induction h : bs.size - i generalizing i r with
  | zero =>
    have hend : bs.data.toList.length ≤ i := by
      rw [Array.length_toList, ByteArray.size_data]
      omega
    rw [ByteArray.toList.loop.eq_1, if_neg (by omega), List.drop_eq_nil_of_le hend, List.append_nil]
  | succ n ih =>
    have hi : i < bs.data.toList.length := by
      rw [Array.length_toList, ByteArray.size_data]
      omega
    have hget : bs.get! i = bs.data.toList[i] := by
      rw [Array.getElem_toList]
      exact getElem!_pos bs.data i (by simpa using hi)
    rw [ByteArray.toList.loop.eq_1, if_pos (by omega), ih _ _ (by omega), hget,
      List.drop_eq_getElem_cons hi]
    simp

/-- What is written of a text are the bytes of its characters. -/
theorem encode_eq (s : String) : encode s = s.toList.flatMap String.utf8EncodeChar := by
  rw [encode, String.toUTF8_eq_toByteArray, ← String.utf8Encode_toList, List.utf8Encode.eq_1,
    ByteArray.toList, loop_eq, List.toList_data_toByteArray]
  rfl

theorem scalars_utf8EncodeChar_append (c : Char) (rest : List UInt8) :
    scalars (String.utf8EncodeChar c ++ rest) = some c :: scalars rest := by
  obtain ⟨lead, more, hbytes, hnext⟩ := next_utf8EncodeChar c rest
  rw [hbytes, List.cons_append, scalars, hnext]
  simp

/-- **A text is read back** character by character. -/
theorem scalars_encode (s : String) : scalars (encode s) = s.toList.map some := by
  rw [encode_eq]
  induction s.toList with
  | nil => rw [List.flatMap_nil, scalars, List.map_nil]
  | cons c rest ih => rw [List.flatMap_cons, scalars_utf8EncodeChar_append, ih, List.map_cons]

theorem decodeStrict_encode (s : String) : decodeStrict (encode s) = some s := by
  have hall : (s.toList.map some).mapM id = some s.toList := by
    induction s.toList with
    | nil => rfl
    | cons c rest ih => simp [ih]
  rw [decodeStrict, scalars_encode, hall, Option.map_some, String.ofList_toList]

theorem decodeLossy_encode (s : String) : decodeLossy (encode s) = s := by
  simp [decodeLossy, scalars_encode, Function.comp_def]

end Text

end Telemetry
