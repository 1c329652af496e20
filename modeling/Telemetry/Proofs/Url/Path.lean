import Mathlib.Data.List.Basic
import Telemetry.Proofs.Url.Percent
import Telemetry.Url.Basic
/-!
# Url — texts as segments

A text that is appended to a path is meant to become one segment, the last, that
stands for the text. There are three ways in which it does not: dot segments are
left out, a dot segment is followed where it only appears once tabs and line breaks
are gone, and those are not written at all (`pushSegment_eq`). A path of one empty
segment counts as none.

So texts that are appended leave a path that is longer by as many segments, or a
shorter one (`foldl_pushSegment_cases`), and if all of them can be said they are all
there (`foldl_pushSegment_of_sayable`). For a path that is to lead to a database that is an
exact condition (`leadsTo_iff`).
-/

namespace Telemetry

namespace Url

open Percent

variable {special : Bool} {text : List Char} {path : List (List Char)}

/-! ## Dots -/

theorem dropDot_percent (x y : Char) (rest : List Char) :
    dropDot ('%' :: x :: y :: rest) =
      if x = '2' ∧ (y = 'e' ∨ y = 'E') then some rest else none := by
  by_cases hx : x = '2'
  · by_cases hsmall : y = 'e'
    · simp [dropDot, hx, hsmall]
    · by_cases hgreat : y = 'E' <;> simp [dropDot, hx, hsmall, hgreat]
  · simp [dropDot, hx]

theorem dropDot_of_ne {c : Char} (h : c ≠ '%') (rest : List Char) :
    dropDot (c :: rest) = if c = '.' then some rest else none := by
  by_cases hc : c = '.' <;> simp [dropDot, h, hc]

theorem inSegment_percent (special : Bool) : inSegment special '%' = true := by
  cases special <;> decide

theorem inSegment_dot (special : Bool) : inSegment special '.' = false := by
  cases special <;> decide

/-- **Encoding makes no dot**, and leaves those that there are. -/
theorem dropDot_encode_cons (c : Char) (rest : List Char) :
    dropDot (encode (inSegment special) (c :: rest)) =
      if c = '.' then some (encode (inSegment special) rest) else none := by
  have hdigits : ∀ x y : Fin 16, upperDigit x = '2' ∧ (upperDigit y = 'e' ∨ upperDigit y = 'E') →
      x = 2 ∧ y = 14 := by decide
  rw [encode_cons]
  by_cases hset : inSegment special c = true
  · have hdot : c ≠ '.' := by
      rintro rfl
      exact absurd hset (by simp [inSegment_dot])
    obtain ⟨lead, more, hbytes⟩ :=
      List.exists_cons_of_ne_nil (String.utf8EncodeChar_ne_nil (c := c))
    rw [if_pos hset, if_neg hdot, encodeChar, hbytes, List.flatMap_cons, encodeByte]
    refine (dropDot_percent _ _ _).trans (if_neg fun hread => ?_)
    -- the byte of a dot is that of no other character
    have hlead := lead.toNat_lt
    obtain ⟨hhigh, hlow⟩ :=
      hdigits ⟨lead.toNat / 16, by omega⟩ ⟨lead.toNat % 16, by omega⟩ hread
    have hhigh' : lead.toNat / 16 = 2 := congrArg Fin.val hhigh
    have hlow' : lead.toNat % 16 = 14 := congrArg Fin.val hlow
    have hmem : lead ∈ String.utf8EncodeChar c := hbytes ▸ List.mem_cons_self
    have hdotNat : '.'.toNat = 46 := rfl
    rcases toNat_of_mem_utf8EncodeChar hmem with hc | hbeyond
    · exact hdot (Char.toNat_inj.1 (by omega))
    · omega
  · have hne : c ≠ '%' := by
      rintro rfl
      exact hset (inSegment_percent special)
    rw [if_neg hset, List.singleton_append, dropDot_of_ne hne]

/-- **Only dots are a dot segment.** -/
theorem stepOf_encode (text : List Char) :
    stepOf (encode (inSegment special) text) =
      if text = ['.'] then .stay else if text = ['.', '.'] then .up else .down := by
  rcases text with _ | ⟨c, _ | ⟨d, rest⟩⟩
  · rfl
  · rw [stepOf, dropDot_encode_cons]
    by_cases hc : c = '.' <;> simp [hc]
  · have hne : encode (inSegment special) (d :: rest) ≠ [] := by simp [encode_eq_nil]
    obtain ⟨e, more, hsecond⟩ := List.exists_cons_of_ne_nil hne
    have hup : dropDot (encode (inSegment special) (d :: rest)) = some [] ↔
        d = '.' ∧ rest = [] := by
      rw [dropDot_encode_cons]
      by_cases hd : d = '.' <;> simp [hd, encode_eq_nil]
    rw [stepOf, dropDot_encode_cons]
    by_cases hc : c = '.'
    · rw [if_pos hc, hsecond]
      simp only [← hsecond, hup]
      simp [hc]
    · simp [hc]

/-! ## Segments -/

/-- What of a text can be written in a URL. -/
def visible (text : List Char) : List Char := text.filter fun c => !isIgnored c

/-- One dot or two, which are no name. -/
def IsDots (text : List Char) : Prop := text = ['.'] ∨ text = ['.', '.']

instance (text : List Char) : Decidable (IsDots text) := inferInstanceAs (Decidable (_ ∨ _))

/-- The segment that is left of a text. -/
def segmentOf (special : Bool) (text : List Char) : List Char :=
  if IsDots (visible text) then [] else encode (inSegment special) (visible text)

/-- What of a path there is to go on from: one empty segment is none. -/
def stem (path : List (List Char)) : List (List Char) := if path = [[]] then [] else path

theorem shorten_false (path : List (List Char)) : shorten false path = path.dropLast := by
  unfold shorten
  split <;> rfl

/-- Where no file is meant a segment is walked by its step alone. -/
theorem walk_false (path : List (List Char)) (segment : List Char) :
    walk false true path segment = match stepOf segment with
      | .stay => path ++ [[]]
      | .up => path.dropLast ++ [[]]
      | .down => path ++ [segment] := by
  unfold walk
  cases stepOf segment with
  | stay => rfl
  | up => exact congrArg (· ++ [[]]) (shorten_false path)
  | down =>
    dsimp only
    split <;> rfl

/-- **What a text does to a path** that it is appended to. -/
theorem pushSegment_eq (path : List (List Char)) (text : List Char) :
    pushSegment special false path text =
      if IsDots text then path
      else (if visible text = ['.', '.'] then (stem path).dropLast else stem path) ++
        [segmentOf special text] := by
  have hpush : pushSegment special false path text =
      if IsDots text then path
      else walk false true (stem path) (encode (inSegment special) (visible text)) := by
    by_cases htext : IsDots text
    · rw [if_pos htext, pushSegment, if_pos (by simpa [IsDots] using htext)]
    · rw [if_neg htext, pushSegment, if_neg (by simpa [IsDots] using htext)]
      rfl
  rw [hpush, walk_false, stepOf_encode]
  by_cases hone : visible text = ['.']
  · simp [hone, segmentOf, IsDots]
  · by_cases htwo : visible text = ['.', '.']
    · simp [htwo, segmentOf, IsDots]
    · simp [hone, htwo, segmentOf, IsDots]

/-- **One text makes a path one segment longer**, and that is its own, or no longer. -/
theorem pushSegment_cases (special : Bool) (path : List (List Char)) (text : List Char) :
    pushSegment special false path text = path ++ [segmentOf special text] ∨
      (pushSegment special false path text).length ≤ path.length := by
  rw [pushSegment_eq]
  split
  · exact .inr (Nat.le_refl _)
  · by_cases hstem : path = [[]]
    · exact .inr (by simp [stem, hstem])
    · rw [stem, if_neg hstem]
      split
      · rcases path.eq_nil_or_concat with rfl | ⟨front, last, rfl⟩
        · exact .inl rfl
        · exact .inr (by simp)
      · exact .inl rfl

/-- Several make it longer by as many segments, which are theirs, or by fewer. -/
theorem foldl_pushSegment_cases (special : Bool) (path texts : List (List Char)) :
    texts.foldl (pushSegment special false) path = path ++ texts.map (segmentOf special) ∨
      (texts.foldl (pushSegment special false) path).length < path.length + texts.length := by
  induction texts generalizing path with
  | nil => exact .inl (by simp)
  | cons text texts ih =>
    rw [List.foldl_cons, List.length_cons]
    rcases pushSegment_cases special path text with hown | hshort
    · rw [hown]
      rcases ih (path ++ [segmentOf special text]) with hall | hfew
      · exact .inl (by rw [hall]; simp)
      · exact .inr (by simp only [List.length_append, List.length_singleton] at hfew; omega)
    · right
      rcases ih (pushSegment special false path text) with hall | hfew
      · rw [hall, List.length_append, List.length_map]
        omega
      · omega

/-- What ends a segment: the next one, or a query. -/
def endsSegment (c : Char) : Bool := c == '/' || c == '?'

/-- **A segment does not end within a text.** -/
theorem endsSegment_of_mem {c : Char} (h : c ∈ segmentOf special text) : endsSegment c = false := by
  have hset : inSegment special '/' = true ∧ inSegment special '?' = true := by
    cases special <;> decide
  have hdigit : ∀ n : Fin 16, endsSegment (upperDigit n) = false := by decide
  unfold segmentOf at h
  split at h
  · cases h
  · rcases mem_encode h with ⟨-, hc⟩ | rfl | ⟨n, rfl⟩
    · rw [endsSegment, Bool.or_eq_false_iff, beq_eq_false_iff_ne, beq_eq_false_iff_ne]
      constructor <;> rintro rfl <;> simp [hset] at hc
    · rfl
    · exact hdigit n

/-- So it can be told from what follows it. -/
theorem takeWhile_segmentOf {tail : List Char}
    (htail : ∃ c rest, tail = c :: rest ∧ endsSegment c = true) :
    (segmentOf special text ++ tail).takeWhile (fun c => !endsSegment c) =
      segmentOf special text := by
  obtain ⟨c, rest, rfl, hc⟩ := htail
  have hwithin : ∀ d ∈ segmentOf special text, (!endsSegment d) = true := fun d hd => by
    rw [endsSegment_of_mem hd]
    rfl
  rw [List.takeWhile_append_of_pos hwithin, List.takeWhile_cons_of_neg (by simp [hc]),
    List.append_nil]

/-! ## Texts that can be said -/

/-- **A text that can be said** as a segment. -/
structure Sayable (text : List Char) : Prop where
  /-- Nothing of it is passed over. -/
  kept : visible text = text
  name : ¬ IsDots text

instance (text : List Char) : Decidable (Sayable text) :=
  decidable_of_iff (visible text = text ∧ ¬ IsDots text)
    ⟨fun h => ⟨h.1, h.2⟩, fun h => ⟨h.kept, h.name⟩⟩

/-- **Its segment says it**, and the segment of no other text does. -/
theorem decodeText_segmentOf_iff :
    decodeText (segmentOf special text) = some (String.ofList text) ↔ Sayable text := by
  rw [segmentOf]
  split
  · next hdots =>
    refine ⟨fun h => ?_, fun h => absurd (h.kept ▸ hdots) h.name⟩
    -- what is read as dots is not empty
    have hempty : decodeText [] = some (String.ofList []) :=
      decodeText_encode (inSegment_percent special) []
    rw [hempty, Option.some.injEq, String.ofList_inj] at h
    rw [← h] at hdots
    exact absurd hdots (by decide)
  · next hname =>
    rw [decodeText_encode (inSegment_percent special), Option.some.injEq, String.ofList_inj]
    exact ⟨fun h => ⟨h, h ▸ hname⟩, Sayable.kept⟩

/-- **Texts that can be said differ as they are said.** -/
theorem eq_of_segmentOf {text' : List Char} (h : Sayable text) (h' : Sayable text')
    (hsegment : segmentOf special text = segmentOf special text') : text = text' := by
  have hsaid : decodeText (segmentOf special text) = some (String.ofList text) :=
    decodeText_segmentOf_iff.2 h
  rw [hsegment, decodeText_segmentOf_iff.2 h', Option.some.injEq, String.ofList_inj] at hsaid
  exact hsaid.symm

theorem pushSegment_of_sayable (hpath : path ≠ [[]]) (h : Sayable text) :
    pushSegment special false path text = path ++ [segmentOf special text] := by
  have htwo : visible text ≠ ['.', '.'] := fun heq => h.name (.inr (h.kept ▸ heq))
  rw [pushSegment_eq, if_neg h.name, if_neg htwo, stem, if_neg hpath]

/-- Once a path names something nothing of it is taken for none. -/
theorem foldl_pushSegment_of_sayable {texts : List (List Char)}
    (hpath : ∃ segment ∈ path, segment ≠ []) (h : ∀ text ∈ texts, Sayable text) :
    texts.foldl (pushSegment special false) path = path ++ texts.map (segmentOf special) := by
  induction texts generalizing path with
  | nil => simp
  | cons text texts ih =>
    obtain ⟨segment, hsegment, hnamed⟩ := hpath
    have hne : path ≠ [[]] := by
      rintro rfl
      exact hnamed (List.mem_singleton.1 hsegment)
    rw [List.foldl_cons, pushSegment_of_sayable hne (h text List.mem_cons_self),
      ih ⟨segment, List.mem_append_left _ hsegment, hnamed⟩
        fun text' htext' => h text' (List.mem_cons_of_mem _ htext'),
      List.map_cons, List.append_assoc, List.singleton_append]

/-! ## Paths -/

/-- The segments of a path without an empty one at its end. -/
def trimmed (parts : List (List Char)) : List (List Char) :=
  if parts.getLast? = some [] then parts.dropLast else parts

/-- **That is what a path is extended from**, but where it is two empty segments,
that both go. -/
theorem stem_popEmpty (parts : List (List Char)) :
    stem (popEmpty parts) = if parts = [[], []] then [] else trimmed parts := by
  rcases parts with _ | ⟨p, _ | ⟨q, _ | ⟨r, rest⟩⟩⟩
  · rfl
  · by_cases hp : p = [] <;> simp [popEmpty, trimmed, stem, hp]
  · by_cases hq : q = [] <;> by_cases hp : p = [] <;> simp [popEmpty, trimmed, stem, hp, hq]
  · have hpop : popEmpty (p :: q :: r :: rest) = trimmed (p :: q :: r :: rest) := by
      simp [popEmpty, trimmed]
    have hne : trimmed (p :: q :: r :: rest) ≠ [[]] := by
      unfold trimmed
      split <;> simp
    rw [hpop, stem, if_neg hne, if_neg (by simp)]

/-- **A path that leads from the segments of a base to a database**, and in it to
what is named by texts. -/
def LeadsTo (parts : List (List Char)) (database : List Char) (texts : List (List Char))
    (path : List (List Char)) : Prop :=
  ∃ name rest, path = trimmed parts ++ "databases".toList :: name :: rest ∧
    decodeText name = some (String.ofList database) ∧
    rest.map decodeText = texts.map fun text => some (String.ofList text)

theorem length_stem_popEmpty (parts : List (List Char)) :
    (stem (popEmpty parts)).length ≤ (trimmed parts).length := by
  rw [stem_popEmpty]
  split
  · exact Nat.zero_le _
  · exact Nat.le_refl _

theorem pushSegment_databases (special : Bool) (path : List (List Char)) :
    pushSegment special false path "databases".toList = stem path ++ ["databases".toList] := by
  have hsegment : segmentOf special "databases".toList = "databases".toList := by
    cases special <;> decide
  rw [pushSegment_eq, hsegment, if_neg (by decide), if_neg (by decide)]

/-- **What can be said is there**, behind what a path is extended from. -/
theorem foldl_databases_of_sayable (path : List (List Char)) {texts : List (List Char)}
    (h : ∀ text ∈ texts, Sayable text) :
    ("databases".toList :: texts).foldl (pushSegment special false) path =
      stem path ++ ["databases".toList] ++ texts.map (segmentOf special) := by
  have hnamed : ∃ segment ∈ stem path ++ ["databases".toList], segment ≠ [] :=
    ⟨_, List.mem_append_right _ (List.mem_singleton_self _), by decide⟩
  rw [List.foldl_cons, pushSegment_databases, foldl_pushSegment_of_sayable hnamed h]

/-- **Where a path leads** that is extended to a database: there, exactly if every
text can be said, unless the base is two empty segments. -/
theorem leadsTo_iff (special : Bool) (parts texts : List (List Char)) (database : List Char) :
    LeadsTo parts database texts
        (("databases".toList :: database :: texts).foldl (pushSegment special false)
          (popEmpty parts)) ↔
      parts ≠ [[], []] ∧ ∀ text ∈ database :: texts, Sayable text := by
  constructor
  · rintro ⟨name, rest, hpath, hname, hrest⟩
    rw [List.foldl_cons, pushSegment_databases] at hpath
    have hlength := congrArg List.length hpath
    have htexts : rest.length = texts.length := by simpa using congrArg List.length hrest
    have hstem := length_stem_popEmpty parts
    rcases foldl_pushSegment_cases special (stem (popEmpty parts) ++ ["databases".toList])
        (database :: texts) with hall | hfew
    · have hbase : parts ≠ [[], []] := by
        rintro rfl
        have hstem : stem (popEmpty ([[], []] : List (List Char))) = [] := by decide
        have htrimmed : trimmed ([[], []] : List (List Char)) = [[]] := by decide
        rw [hall, hstem, htrimmed] at hlength
        simp only [List.length_append, List.length_cons, List.length_nil, List.length_map]
          at hlength
        omega
      rw [hall, stem_popEmpty, if_neg hbase, List.append_assoc, List.append_cancel_left_eq,
        List.singleton_append, List.cons_inj_right, List.map_cons] at hpath
      obtain ⟨rfl, rfl⟩ := List.cons.inj hpath
      rw [List.map_map, List.map_inj_left] at hrest
      refine ⟨hbase, List.forall_mem_cons.2
        ⟨decodeText_segmentOf_iff.1 hname, fun text htext => ?_⟩⟩
      exact decodeText_segmentOf_iff.1 (hrest text htext)
    · simp only [List.length_append, List.length_cons, List.length_nil] at hlength hfew
      omega
  · rintro ⟨hbase, hsayable⟩
    rw [foldl_databases_of_sayable _ hsayable, stem_popEmpty, if_neg hbase]
    refine ⟨segmentOf special database, texts.map (segmentOf special), by simp, ?_, ?_⟩
    · exact decodeText_segmentOf_iff.2 (hsayable database List.mem_cons_self)
    · rw [List.map_map, List.map_inj_left]
      intro text htext
      exact decodeText_segmentOf_iff.2 (hsayable text (List.mem_cons_of_mem _ htext))

end Url

end Telemetry
