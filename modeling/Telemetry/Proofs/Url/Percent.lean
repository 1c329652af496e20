import Mathlib.Tactic.SplitIfs
import Telemetry.Proofs.Text.Utf8
import Telemetry.Url.Percent
/-!
# Url — percent encoding is read back

What a text is encoded as stands for the bytes of that text, whatever set of
characters is encoded, as long as `%` is one of them (`decode_encode`). So parts
that differ as texts differ as they are written.
-/

namespace Telemetry

namespace Percent

/-- **The bytes that a part of a URL stands for.** -/
def decode (cs : List Char) : List UInt8 := decodeBytes (Text.encode (String.ofList cs))

/-! ## Bytes -/

/-- Any other byte than that of `%` stands for itself. -/
theorem decodeBytes_cons {b : UInt8} (h : b ≠ 0x25) (rest : List UInt8) :
    decodeBytes (b :: rest) = b :: decodeBytes rest := by
  rcases rest with _ | ⟨c, _ | ⟨d, rest⟩⟩ <;> simp [decodeBytes, h]

theorem decodeBytes_append {bs : List UInt8} (h : ∀ b ∈ bs, b ≠ 0x25) (rest : List UInt8) :
    decodeBytes (bs ++ rest) = bs ++ decodeBytes rest := by
  induction bs with
  | nil => rfl
  | cons b bs ih =>
    rw [List.cons_append, decodeBytes_cons (h b List.mem_cons_self),
      ih fun c hc => h c (List.mem_cons_of_mem b hc), List.cons_append]

/-- A digit is written as one byte, and that is read as the digit. -/
theorem digitValue?_upperDigit : ∀ n : Fin 16,
    (String.utf8EncodeChar (upperDigit n)).map digitValue? = [some n.val] := by decide

/-- **An encoded byte is read back.** -/
theorem decodeBytes_encodeByte (b : UInt8) (rest : List UInt8) :
    decodeBytes ((encodeByte b).flatMap String.utf8EncodeChar ++ rest) = b :: decodeBytes rest := by
  have hb := b.toNat_lt
  obtain ⟨high, hhigh, hhighValue⟩ :=
    List.map_eq_singleton_iff.1 (digitValue?_upperDigit ⟨b.toNat / 16, by omega⟩)
  obtain ⟨low, hlow, hlowValue⟩ :=
    List.map_eq_singleton_iff.1 (digitValue?_upperDigit ⟨b.toNat % 16, by omega⟩)
  have hsign : String.utf8EncodeChar '%' = [0x25] := by decide
  have hsum : b.toNat / 16 * 16 + b.toNat % 16 = b.toNat := by omega
  simp only [encodeByte, List.flatMap_cons, List.flatMap_nil, hsign, hhigh, hlow, List.cons_append,
    List.nil_append, decodeBytes, hhighValue, hlowValue, hsum, UInt8.ofNat_toNat]

theorem decodeBytes_encodeBytes (bs rest : List UInt8) :
    decodeBytes ((bs.flatMap encodeByte).flatMap String.utf8EncodeChar ++ rest) =
      bs ++ decodeBytes rest := by
  induction bs with
  | nil => rfl
  | cons b bs ih =>
    rw [List.flatMap_cons, List.flatMap_append, List.append_assoc, decodeBytes_encodeByte, ih,
      List.cons_append]

/-! ## Characters -/

/-- A character of ASCII is its own byte, and all bytes of another are beyond
ASCII. -/
theorem toNat_of_mem_utf8EncodeChar {c : Char} {b : UInt8} (h : b ∈ String.utf8EncodeChar c) :
    b.toNat = c.toNat ∨ 0x80 ≤ b.toNat := by
  have hscalar : c.toNat < 55296 ∨ 57343 < c.toNat ∧ c.toNat < 1114112 := c.valid
  rw [String.utf8EncodeChar.eq_1, Char.toNat_val] at h
  generalize c.toNat = n at h hscalar
  split_ifs at h <;> simp only [List.mem_cons, List.not_mem_nil, or_false] at h
  · obtain rfl := h
    rw [UInt8.toNat_ofNat']
    omega
  all_goals
    right
    rcases h with rfl | rfl | rfl | rfl <;> rw [UInt8.toNat_ofNat'] <;> omega

/-- **Any other character than `%`** stands for itself. -/
theorem decodeBytes_utf8EncodeChar {c : Char} (h : c ≠ '%') (rest : List UInt8) :
    decodeBytes (String.utf8EncodeChar c ++ rest) =
      String.utf8EncodeChar c ++ decodeBytes rest := by
  refine decodeBytes_append (fun b hb heq => ?_) rest
  have hsign : b.toNat = '%'.toNat := congrArg UInt8.toNat heq
  rcases toNat_of_mem_utf8EncodeChar hb with hc | hbeyond
  · exact h (Char.toNat_inj.1 (hc.symm.trans hsign))
  · rw [hsign] at hbeyond
    exact absurd hbeyond (by decide)

/-! ## Texts -/

@[simp] theorem encode_nil (set : Char → Bool) : encode set [] = [] := rfl

theorem encode_cons (set : Char → Bool) (c : Char) (cs : List Char) :
    encode set (c :: cs) = (if set c then encodeChar c else [c]) ++ encode set cs := rfl

theorem encodeChar_ne_nil (c : Char) : encodeChar c ≠ [] := by
  obtain ⟨lead, more, hbytes⟩ :=
    List.exists_cons_of_ne_nil (String.utf8EncodeChar_ne_nil (c := c))
  rw [encodeChar, hbytes, List.flatMap_cons, encodeByte]
  exact List.cons_ne_nil _ _

/-- Only of no text nothing is left. -/
theorem encode_eq_nil {set : Char → Bool} {cs : List Char} : encode set cs = [] ↔ cs = [] := by
  refine ⟨fun h => ?_, fun h => by rw [h, encode_nil]⟩
  cases cs with
  | nil => rfl
  | cons c cs =>
    rw [encode_cons, List.append_eq_nil_iff] at h
    obtain ⟨hnil, -⟩ := h
    split at hnil
    · exact absurd hnil (encodeChar_ne_nil c)
    · cases hnil

theorem decodeBytes_encode {set : Char → Bool} (hset : set '%' = true) (cs : List Char)
    (rest : List UInt8) :
    decodeBytes ((encode set cs).flatMap String.utf8EncodeChar ++ rest) =
      cs.flatMap String.utf8EncodeChar ++ decodeBytes rest := by
  induction cs with
  | nil => rfl
  | cons c cs ih =>
    rw [encode_cons, List.flatMap_append, List.append_assoc, List.flatMap_cons, List.append_assoc]
    split
    · rw [encodeChar, decodeBytes_encodeBytes, ih]
    · next hc =>
      have hne : c ≠ '%' := fun heq => hc (heq ▸ hset)
      rw [List.flatMap_singleton, decodeBytes_utf8EncodeChar hne, ih]

/-- An encoded character is all signs and digits. -/
theorem mem_encodeChar {c d : Char} (h : c ∈ encodeChar d) :
    c = '%' ∨ ∃ n : Fin 16, c = upperDigit n := by
  obtain ⟨b, -, hc⟩ := List.mem_flatMap.1 h
  have hb := b.toNat_lt
  simp only [encodeByte, List.mem_cons, List.not_mem_nil, or_false] at hc
  rcases hc with rfl | rfl | rfl
  · exact .inl rfl
  · exact .inr ⟨⟨_, by omega⟩, rfl⟩
  · exact .inr ⟨⟨_, by omega⟩, rfl⟩

/-- What there is to an encoded text: the characters that are left as they are, and
those of encoded characters. -/
theorem mem_encode {set : Char → Bool} {cs : List Char} {c : Char} (h : c ∈ encode set cs) :
    c ∈ cs ∧ set c = false ∨ c = '%' ∨ ∃ n : Fin 16, c = upperDigit n := by
  obtain ⟨d, hd, hc⟩ := List.mem_flatMap.1 h
  split at hc
  · exact .inr (mem_encodeChar hc)
  · next hset =>
    obtain rfl := List.mem_singleton.1 hc
    exact .inl ⟨hd, by simpa using hset⟩

/-- **A text that is encoded** stands for its own bytes. -/
theorem decode_encode {set : Char → Bool} (hset : set '%' = true) (cs : List Char) :
    decode (encode set cs) = Text.encode (String.ofList cs) := by
  have h := decodeBytes_encode hset cs []
  rw [decode, Text.encode_eq, Text.encode_eq, String.toList_ofList, String.toList_ofList]
  simpa [decodeBytes] using h

/-- The text that a part of a URL stands for, if its bytes are one. -/
def decodeText (cs : List Char) : Option String := Text.decodeStrict (decode cs)

/-- **A text that is encoded** is read back. -/
theorem decodeText_encode {set : Char → Bool} (hset : set '%' = true) (cs : List Char) :
    decodeText (encode set cs) = some (String.ofList cs) := by
  rw [decodeText, decode_encode hset, Text.decodeStrict_encode]

end Percent

end Telemetry
