import Telemetry.Proofs.Json.Lexical
/-!
# Json — texts that are read back

`Reads` says of a text that it is read as a document, whatever follows it, and
that as much fuel as it has characters is enough. It holds of the literals, and
of a list or an object if it holds of what is inside (`ReadsItems.list`,
`ReadsMembers.object`).
-/

namespace Telemetry

namespace Json

/-! ## Space -/

theorem dropSpace_cons {c : Char} (h : isSpace c = false) (rest : List Char) :
    dropSpace (c :: rest) = c :: rest :=
  List.dropWhile_cons_of_neg (by simp [h])

theorem dropSpace_append {gap : List Char} (h : ∀ c ∈ gap, isSpace c = true) (cs : List Char) :
    dropSpace (gap ++ cs) = dropSpace cs :=
  List.dropWhile_append_of_pos h

/-- Space in front of a value does not matter. -/
theorem value_spaced {gap : List Char} (h : ∀ c ∈ gap, isSpace c = true) (fuel : Nat)
    (cs : List Char) : value fuel (gap ++ cs) = value fuel cs := by
  cases fuel with
  | zero => rfl
  | succ fuel => rw [value, value, dropSpace_append h]

/-! ## Texts and what they are read as -/

/-- **A text is read as a document**, in front of anything that does not go on
with it. -/
structure Reads (cs : List Char) (d : Document) : Prop where
  /-- It begins with something that is neither space nor the end of a list. -/
  starts : ∃ c rest, cs = c :: rest ∧ isSpace c = false ∧ c ≠ ']'
  value_append : ∀ fuel tail, cs.length ≤ fuel → Halts tail →
    value fuel (cs ++ tail) = (d, some tail)

/-- What is read at the end of a page is all there is on it. -/
theorem Reads.ofText {cs : List Char} {d : Document} (h : Reads cs d) :
    Page.ofText (String.ofList cs) = ⟨d, false⟩ := by
  have hvalue := h.value_append (2 * cs.length + 2) [] (by omega) (fun c hc => by cases hc)
  rw [List.append_nil] at hvalue
  simp [Page.ofText, hvalue, dropSpace]

theorem halts_cons {c : Char} {rest : List Char}
    (h : digit? c = none ∧ c ≠ '.' ∧ c ≠ 'e' ∧ c ≠ 'E') : Halts (c :: rest) := by
  rintro c' ⟨⟩
  exact h

/-! ## Literals -/

theorem reads_null : Reads Value.null.write .null where
  starts := ⟨'n', _, rfl, by decide, by decide⟩
  value_append fuel tail hfuel _ := by
    obtain ⟨fuel, rfl⟩ := Nat.exists_eq_add_of_le' hfuel
    rfl

theorem reads_bool (b : Bool) : Reads (Value.bool b).write (.bool b) where
  starts := by
    cases b
    · exact ⟨'f', _, rfl, by decide, by decide⟩
    · exact ⟨'t', _, rfl, by decide, by decide⟩
  value_append fuel tail hfuel _ := by
    cases b
    · obtain ⟨fuel, rfl⟩ := Nat.exists_eq_add_of_le' hfuel
      rfl
    · obtain ⟨fuel, rfl⟩ := Nat.exists_eq_add_of_le' hfuel
      rfl

/-- **A string is read back.** -/
theorem reads_text (s : String) : Reads (writeText s) (.text (.ok s)) where
  starts := ⟨'"', _, rfl, by decide, by decide⟩
  value_append fuel tail hfuel _ := by
    obtain ⟨fuel, rfl⟩ := Nat.exists_eq_succ_of_ne_zero (n := fuel)
      (by rintro rfl; simp [writeText] at hfuel)
    have hliteral := literal_flatMap_writeChar s.toList [] tail
    rw [writeText, List.cons_append, List.cons_append, List.append_assoc, List.singleton_append,
      value, dropSpace_cons (by decide)]
    simp [hliteral]

theorem ne_of_isDigit {c c' : Char} (h : c.isDigit = true) (h' : c'.isDigit = false) : c ≠ c' := by
  rintro rfl
  exact absurd (h.symm.trans h') (by decide)

theorem isSpace_of_isDigit {c : Char} (h : c.isDigit = true) : isSpace c = false := by
  have hother : ∀ c' : Char, c'.isDigit = false → (c == c') = false := fun c' h' =>
    beq_false_of_ne (ne_of_isDigit h h')
  simp only [isSpace, hother ' ' (by decide), hother '\n' (by decide), hother '\t' (by decide),
    hother '\r' (by decide), Bool.or_self]

/-- A digit opens a number. -/
theorem value_of_isDigit {c : Char} (h : c.isDigit = true) (fuel : Nat) (rest : List Char) :
    value (fuel + 1) (c :: rest) = numberLeaf false (c :: rest) := by
  have hd : (digit? c).isSome = true := by rw [digit?_of_isDigit h]; rfl
  have hother : ∀ c' : Char, c'.isDigit = false → c ≠ c' := fun c' => ne_of_isDigit h
  rw [value, dropSpace_cons (isSpace_of_isDigit h)]
  simp only [hother '"' (by decide), hother '[' (by decide), hother '\x7b' (by decide),
    hother 'n' (by decide), hother 't' (by decide), hother 'f' (by decide), hother '-' (by decide),
    hd, if_true, if_false]

/-- **A number is read back**, with its sign. -/
theorem reads_number {negative : Bool} {c : Char} {rest : List Char} {n : Numeral}
    (hc : c.isDigit = true) (h : number negative (c :: rest) = .ok (n, [])) :
    Reads ((if negative then ['-'] else []) ++ c :: rest) (.number n) where
  starts := by
    cases negative with
    | true => exact ⟨'-', _, rfl, by decide, by decide⟩
    | false => exact ⟨c, rest, rfl, isSpace_of_isDigit hc, ne_of_isDigit hc (by decide)⟩
  value_append fuel tail hfuel htail := by
    have hnumber : numberLeaf negative (c :: rest ++ tail) = (.number n, some tail) := by
      rw [numberLeaf, number_append htail h]
      rfl
    obtain ⟨fuel, rfl⟩ := Nat.exists_eq_succ_of_ne_zero (n := fuel)
      (by rintro rfl; simp at hfuel)
    cases negative with
    | true =>
      rw [if_pos rfl, List.append_assoc, List.singleton_append, value, dropSpace_cons (by decide)]
      exact hnumber
    | false => exact (value_of_isDigit hc fuel _).trans hnumber

/-! ## Lists -/

/-- **A text is read as the last items of a list**, up to the bracket that closes
it. -/
structure ReadsItems (cs : List Char) (ds : List Document) : Prop where
  starts : ∃ c rest, cs = c :: rest ∧ isSpace c = false ∧ c ≠ ']'
  items_append : ∀ fuel acc tail, cs.length ≤ fuel →
    items fuel acc (cs ++ tail) = (.list (acc.reverse ++ ds) none, some tail)

variable {cs : List Char} {d : Document}

/-- The last item. -/
theorem Reads.lastItem (h : Reads cs d) : ReadsItems (cs ++ [']']) [d] where
  starts := by
    obtain ⟨c, rest, rfl, hc⟩ := h.starts
    exact ⟨c, rest ++ [']'], rfl, hc⟩
  items_append fuel acc tail hfuel := by
    rw [List.length_append] at hfuel
    obtain ⟨fuel, rfl⟩ := Nat.exists_eq_add_of_le' (Nat.le_trans (Nat.le_add_left 1 _) hfuel)
    have hitem := h.value_append fuel (']' :: tail) (by simpa using hfuel) (halts_cons (by decide))
    rw [List.append_assoc, List.singleton_append, items, hitem]
    simp [dropSpace_cons (show isSpace ']' = false by decide)]

/-- An item before others. -/
theorem Reads.item (h : Reads cs d) {rest : List Char} {ds : List Document}
    (hrest : ReadsItems rest ds) : ReadsItems (cs ++ ',' :: rest) (d :: ds) where
  starts := by
    obtain ⟨c, cs', rfl, hc⟩ := h.starts
    exact ⟨c, cs' ++ ',' :: rest, rfl, hc⟩
  items_append fuel acc tail hfuel := by
    rw [List.length_append, List.length_cons] at hfuel
    obtain ⟨fuel, rfl⟩ := Nat.exists_eq_add_of_le' (by omega : 1 ≤ fuel)
    have hitem := h.value_append fuel (',' :: (rest ++ tail)) (by omega) (halts_cons (by decide))
    have hitems := hrest.items_append fuel (d :: acc) tail (by omega)
    obtain ⟨c, rest', rfl, hspace, hclose⟩ := hrest.starts
    have hcomma : dropSpace (',' :: (c :: rest' ++ tail)) = ',' :: (c :: rest' ++ tail) :=
      dropSpace_cons (by decide) _
    have hnext : dropSpace (c :: rest' ++ tail) = c :: rest' ++ tail := dropSpace_cons hspace _
    rw [List.append_assoc, List.cons_append, items, hitem]
    simp only [hcomma, hnext]
    rw [if_neg (by decide), if_pos trivial]
    split
    · next heq => exact absurd (List.cons.inj heq).1 hclose
    · rw [hitems]
      simp

/-- **A list is read back** if its items are. -/
theorem ReadsItems.list {ds : List Document} (h : ReadsItems cs ds) :
    Reads ('[' :: cs) (.list ds none) where
  starts := ⟨'[', cs, rfl, by decide, by decide⟩
  value_append fuel tail hfuel _ := by
    obtain ⟨fuel, rfl⟩ := Nat.exists_eq_add_of_le' (Nat.le_trans (Nat.le_add_left 1 _) hfuel)
    have hitems := h.items_append fuel [] tail (by simpa using hfuel)
    obtain ⟨c, rest, rfl, hspace, hclose⟩ := h.starts
    have hfirst : dropSpace (c :: (rest ++ tail)) = c :: (rest ++ tail) := dropSpace_cons hspace _
    rw [List.cons_append, value, dropSpace_cons (by decide)]
    simpa [hfirst, hclose] using hitems

theorem reads_nil : Reads ['[', ']'] (.list [] none) where
  starts := ⟨'[', _, rfl, by decide, by decide⟩
  value_append fuel tail hfuel _ := by
    obtain ⟨fuel, rfl⟩ := Nat.exists_eq_add_of_le' hfuel
    rfl

/-! ## Objects -/

/-- **A text is read as the last fields of an object**, up to the brace that
closes it. -/
structure ReadsMembers (cs : List Char) (fs : List (Except Fault String × Document)) : Prop where
  starts : ∃ rest, cs = '"' :: rest
  members_append : ∀ fuel acc tail, cs.length ≤ fuel →
    members fuel acc (cs ++ tail) = (.object (acc.reverse ++ fs) none, some tail)

variable {gap : List Char} (key : String)

/-- What a field is read as, up to the sign that follows its value. -/
theorem Reads.members_eq (h : Reads cs d) (hgap : ∀ c ∈ gap, isSpace c = true) {fuel : Nat}
    (hfuel : cs.length ≤ fuel) {sign : Char} (hsign : isSpace sign = false)
    {tail : List Char} (htail : Halts (sign :: tail))
    (acc : List (Except Fault String × Document)) :
    members (fuel + 1) acc (writeText key ++ ':' :: (gap ++ (cs ++ sign :: tail))) =
      if sign = '\x7d' then (.object ((.ok key, d) :: acc).reverse none, some tail)
      else if sign = ',' then members fuel ((.ok key, d) :: acc) (dropSpace tail)
      else (.object ((.ok key, d) :: acc).reverse (some (.both .malformed)), none) := by
  have hkey := literal_flatMap_writeChar key.toList [] (':' :: (gap ++ (cs ++ sign :: tail)))
  have hcolon : dropSpace (':' :: (gap ++ (cs ++ sign :: tail))) =
      ':' :: (gap ++ (cs ++ sign :: tail)) := dropSpace_cons (by decide) _
  have hvalue : value fuel (gap ++ (cs ++ sign :: tail)) = (d, some (sign :: tail)) := by
    rw [value_spaced hgap]
    exact h.value_append fuel (sign :: tail) hfuel htail
  rw [writeText, List.cons_append, List.cons_append, List.append_assoc, List.singleton_append,
    members]
  simp [hkey, hcolon, hvalue, dropSpace_cons hsign]

/-- The last field. -/
theorem Reads.lastMember (h : Reads cs d) (hgap : ∀ c ∈ gap, isSpace c = true) :
    ReadsMembers (writeText key ++ ':' :: (gap ++ (cs ++ ['\x7d']))) [(.ok key, d)] where
  starts := ⟨_, rfl⟩
  members_append fuel acc tail hfuel := by
    simp only [List.length_append, List.length_cons] at hfuel
    obtain ⟨fuel, rfl⟩ := Nat.exists_eq_add_of_le' (by omega : 1 ≤ fuel)
    have hbrace : isSpace '\x7d' = false := by decide
    have hhalts : Halts ('\x7d' :: tail) := halts_cons (by decide)
    have hmember := h.members_eq key hgap (by omega : cs.length ≤ fuel) hbrace hhalts acc
    simpa using hmember

/-- A field before others. -/
theorem Reads.member (h : Reads cs d) {rest : List Char}
    {fs : List (Except Fault String × Document)} (hrest : ReadsMembers rest fs) :
    ReadsMembers (writeText key ++ ':' :: (cs ++ ',' :: rest)) ((.ok key, d) :: fs) where
  starts := ⟨_, rfl⟩
  members_append fuel acc tail hfuel := by
    simp only [List.length_append, List.length_cons] at hfuel
    obtain ⟨fuel, rfl⟩ := Nat.exists_eq_add_of_le' (by omega : 1 ≤ fuel)
    have hcomma : isSpace ',' = false := by decide
    have hhalts : Halts (',' :: (rest ++ tail)) := halts_cons (by decide)
    have hgap : ∀ c ∈ ([] : List Char), isSpace c = true := by simp
    have hmember := h.members_eq key hgap (by omega : cs.length ≤ fuel) hcomma hhalts acc
    have hmembers := hrest.members_append fuel ((.ok key, d) :: acc) tail (by omega)
    obtain ⟨rest, rfl⟩ := hrest.starts
    have hquote : dropSpace ('"' :: (rest ++ tail)) = '"' :: (rest ++ tail) :=
      dropSpace_cons (by decide) _
    rw [if_neg (by decide), if_pos rfl, List.cons_append, hquote] at hmember
    rw [List.reverse_cons, List.append_assoc, List.singleton_append, List.cons_append] at hmembers
    simpa using hmember.trans hmembers

/-- **An object is read back** if its fields are. -/
theorem ReadsMembers.object {fs : List (Except Fault String × Document)} (h : ReadsMembers cs fs) :
    Reads ('\x7b' :: cs) (.object fs none) where
  starts := ⟨'\x7b', cs, rfl, by decide, by decide⟩
  value_append fuel tail hfuel _ := by
    obtain ⟨fuel, rfl⟩ := Nat.exists_eq_add_of_le' (Nat.le_trans (Nat.le_add_left 1 _) hfuel)
    have hmembers := h.members_append fuel [] tail (by simpa using hfuel)
    obtain ⟨rest, rfl⟩ := h.starts
    have hfirst : dropSpace ('"' :: (rest ++ tail)) = '"' :: (rest ++ tail) :=
      dropSpace_cons (by decide) _
    rw [List.cons_append, value, dropSpace_cons (by decide)]
    simpa [hfirst] using hmembers

theorem reads_empty : Reads ['\x7b', '\x7d'] (.object [] none) where
  starts := ⟨'\x7b', _, rfl, by decide, by decide⟩
  value_append fuel tail hfuel _ := by
    obtain ⟨fuel, rfl⟩ := Nat.exists_eq_add_of_le' hfuel
    rfl

end Json

end Telemetry
