import Mathlib.Data.List.Basic
import Telemetry.Proofs.Text.Split
import Telemetry.Proofs.Url.Percent
import Telemetry.Url.Basic
/-!
# Url — queries as forms

A query is read as a form: pairs between ampersands, each cut at its first `=`,
with a plus for a blank and `%` for encoded bytes (`formPairs`). Whatever is there
already, a pair that is appended is read as one more pair, the last, with the key
and the value that it was made of (`formPairs_appendPair`).
-/

namespace Telemetry

namespace Url

open Percent

/-! ## Reading -/

/-- A plus is a blank. -/
def blankOfPlus (c : Char) : Char := if c = '+' then ' ' else c

/-- The text of a key or a value in a form. -/
def formText (cs : List Char) : String := Text.decodeLossy (decode (cs.map blankOfPlus))

/-- The key and the value of a part of a form. -/
def formPair (cs : List Char) : String × String :=
  (formText (cs.takeWhile (· != '=')), formText ((cs.dropWhile (· != '=')).drop 1))

/-- **The pairs of a query**, in their order; what is empty between two ampersands
is none. -/
def formPairs (query : List Char) : List (String × String) :=
  ((Text.splitAt '&' query).filter fun part => !part.isEmpty).map formPair

/-- The pairs of the query of a URL. -/
def pairs (u : Url) : List (String × String) := formPairs (u.query.getD [])

/-! ## Keys and values -/

/-- What a form encodes. -/
def inForm (c : Char) : Bool := !plainInForm c && c != ' '

theorem blankOfPlus_of_ne {c : Char} (h : c ≠ '+') : blankOfPlus c = c := if_neg h

/-- With blanks for its pluses a text in a form is one of which some characters are
encoded. -/
theorem map_encodeForm (s : String) : (encodeForm s).map blankOfPlus = encode inForm s.toList := by
  have hdigit : ∀ n : Fin 16, upperDigit n ≠ '+' := by decide
  rw [encodeForm, encode, List.map_flatMap]
  refine List.flatMap_congr fun c _ => ?_
  by_cases hplain : plainInForm c = true
  · have hne : c ≠ '+' := by
      rintro rfl
      exact absurd hplain (by decide)
    simp [inForm, hplain, blankOfPlus_of_ne hne]
  · by_cases hblank : c = ' '
    · subst hblank
      decide
    · have hkept : (encodeChar c).map blankOfPlus = encodeChar c := by
        refine (List.map_congr_left fun d hd => blankOfPlus_of_ne ?_).trans (List.map_id _)
        rcases mem_encodeChar hd with rfl | ⟨n, rfl⟩
        · decide
        · exact hdigit n
      simp [inForm, hplain, hblank, hkept]

/-- **A key or a value is read back.** -/
theorem formText_encodeForm (s : String) : formText (encodeForm s) = s := by
  rw [formText, map_encodeForm, decode_encode (by decide), String.ofList_toList,
    Text.decodeLossy_encode]

/-- What there is to a text in a form. -/
theorem mem_encodeForm {s : String} {c : Char} (h : c ∈ encodeForm s) :
    plainInForm c = true ∨ c = '+' ∨ c = '%' := by
  have hdigit : ∀ n : Fin 16, plainInForm (upperDigit n) = true := by decide
  obtain ⟨d, -, hc⟩ := List.mem_flatMap.1 h
  split at hc
  · next hplain =>
    obtain rfl := List.mem_singleton.1 hc
    exact .inl hplain
  · split at hc
    · obtain rfl := List.mem_singleton.1 hc
      exact .inr (.inl rfl)
    · rcases mem_encodeChar hc with rfl | ⟨n, rfl⟩
      · exact .inr (.inr rfl)
      · exact .inl (hdigit n)

/-- So it holds no separator. -/
theorem notMem_encodeForm (s : String) : '=' ∉ encodeForm s ∧ '&' ∉ encodeForm s := by
  constructor <;> intro h <;> rcases mem_encodeForm h with h | h | h <;> exact absurd h (by decide)

/-! ## Pairs -/

/-- **A pair is read back.** -/
theorem formPair_pairText (key value : String) : formPair (pairText key value) = (key, value) := by
  have hkey : ∀ c ∈ encodeForm key, (c != '=') = true := by
    intro c hc
    refine bne_iff_ne.2 ?_
    rintro rfl
    exact (notMem_encodeForm key).1 hc
  rw [formPair, pairText, List.takeWhile_append_of_pos hkey, List.dropWhile_append_of_pos hkey]
  simp [formText_encodeForm]

/-- It is one part of a form. -/
theorem splitAt_pairText (key value : String) :
    Text.splitAt '&' (pairText key value) = [pairText key value] := by
  refine Text.splitAt_of_notMem fun h => ?_
  rcases List.mem_append.1 h with h | h
  · exact (notMem_encodeForm key).2 h
  · rcases List.mem_cons.1 h with h | h
    · exact absurd h (by decide)
    · exact (notMem_encodeForm value).2 h

/-- **A pair that is appended** is the last pair of the query. -/
theorem formPairs_appendPair (query : List Char) (pair : String × String) :
    formPairs (appendPair query pair) = formPairs query ++ [pair] := by
  have hnonempty : (pairText pair.1 pair.2).isEmpty = false := by simp [pairText]
  have hpair : formPairs (pairText pair.1 pair.2) = [pair] := by
    simp [formPairs, splitAt_pairText, hnonempty, formPair_pairText]
  cases query with
  | nil => exact hpair
  | cons c rest =>
    have happend : appendPair (c :: rest) pair = c :: rest ++ '&' :: pairText pair.1 pair.2 := by
      simp [appendPair]
    rw [happend, ← hpair, formPairs, Text.splitAt_append, List.filter_append, List.map_append]
    rfl

/-- **Pairs that are appended** come after those of the URL, in their order. -/
theorem pairs_appendPairs (u : Url) (added : List (String × String)) :
    (u.appendPairs added).pairs = u.pairs ++ added := by
  change formPairs (added.foldl appendPair (u.query.getD [])) = formPairs (u.query.getD []) ++ added
  generalize u.query.getD [] = query
  induction added generalizing query with
  | nil => rw [List.foldl_nil, List.append_nil]
  | cons pair added ih =>
    rw [List.foldl_cons, ih, formPairs_appendPair, List.append_assoc, List.singleton_append]

end Url

end Telemetry
