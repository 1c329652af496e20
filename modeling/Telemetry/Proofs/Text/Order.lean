import Mathlib.Data.String.Basic
import Telemetry.Proofs.Text.Utf8
/-!
# Text — the order of texts

Texts are ordered character by character, and their bytes are ordered alike
(`encode_lt_encode_iff`): whoever compares names byte by byte orders them as the
characters do. What two texts begin with decides, if it is as long in both
(`append_lt_append`).
-/

namespace Telemetry

namespace Text

/-! ## Beginnings -/

section append

variable {α : Type} [LT α] {a b x y : List α}

/-- Beginnings of one length decide, and if they are the same, the rests do. -/
theorem append_lt_append (hlength : a.length = b.length) (h : a < b ∨ a = b ∧ x < y) :
    a ++ x < b ++ y := by
  rcases h with hlt | ⟨rfl, hrest⟩
  · induction hlt with
    | nil => simp at hlength
    | cons _ ih => exact .cons (ih (by simpa using hlength))
    | rel hcd => exact .rel hcd
  · exact List.append_left_lt hrest

end append

/-! ## Bytes -/

/-- **The bytes of a smaller character are smaller**, whatever follows. -/
theorem utf8EncodeChar_append_lt {c d : Char} (h : c < d) (x y : List UInt8) :
    String.utf8EncodeChar c ++ x < String.utf8EncodeChar d ++ y := by
  have hlt : c.toNat < d.toNat := h
  have hd : d.toNat < 1114112 := by
    have hscalar : d.toNat < 55296 ∨ 57343 < d.toNat ∧ d.toNat < 1114112 := d.valid
    omega
  have hbytes : ∀ c : Char, String.utf8EncodeChar c = _ := String.utf8EncodeChar.eq_1
  rw [hbytes c, hbytes d, Char.toNat_val, Char.toNat_val]
  generalize c.toNat = m at hlt
  generalize d.toNat = n at hlt hd
  have htwelve : ∀ k, k / 4096 = k / 64 / 64 := fun k => by omega
  have heighteen : ∀ k, k / 262144 = k / 64 / 64 / 64 := fun k => by omega
  -- a character of fewer bytes has a smaller lead byte
  split_ifs <;>
    simp only [List.cons_append, List.nil_append, List.cons_lt_cons_iff, UInt8.lt_iff_toNat_lt,
      ← UInt8.toNat_inj, UInt8.toNat_ofNat', htwelve, heighteen] <;>
    omega

theorem flatMap_utf8EncodeChar_lt {cs ds : List Char} (h : cs < ds) :
    cs.flatMap String.utf8EncodeChar < ds.flatMap String.utf8EncodeChar := by
  induction h with
  | @nil d ds =>
    obtain ⟨lead, more, hbytes, -⟩ := next_utf8EncodeChar d []
    rw [List.flatMap_cons, hbytes]
    exact .nil
  | cons _ ih =>
    rw [List.flatMap_cons, List.flatMap_cons]
    exact List.append_left_lt ih
  | rel hcd =>
    rw [List.flatMap_cons, List.flatMap_cons]
    exact utf8EncodeChar_append_lt hcd _ _

/-- **Bytes are ordered as the texts are.** -/
theorem encode_lt_encode_iff {s t : String} : encode s < encode t ↔ s < t := by
  have hmono : ∀ {s t : String}, s < t → encode s < encode t := fun h => by
    rw [encode_eq, encode_eq]
    exact flatMap_utf8EncodeChar_lt (String.lt_iff_toList_lt.1 h)
  refine ⟨fun h => ?_, hmono⟩
  rcases lt_trichotomy s t with hlt | rfl | hgt
  · exact hlt
  · exact absurd h (List.lt_irrefl _)
  · exact absurd h (List.lt_asymm (hmono hgt))

end Text

end Telemetry
