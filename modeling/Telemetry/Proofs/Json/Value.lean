import Telemetry.Json.Shape
import Telemetry.Proofs.Json.Decimal
import Telemetry.Proofs.Json.Reading
/-!
# Json — values that are read back

The text of any value is read as its document (`Value.reads_document`). A value that
is written and read again is held as it is but for the order of its fields, which is
that of their keys (`Value.held`), as long as its numbers are numbers JSON has and
it does not nest too deep (`Value.Exact.ofText`).
-/

namespace Telemetry

namespace Json

/-! ## Values as they are held -/

mutual

/-- **A value as it is held** once it has been read: its objects are in the order
of their keys. -/
def Value.held : Value → Value
  | .list items => .list (heldItems items)
  | .object fields => .ofFields (heldFields fields)
  | v => v

def heldItems : List Value → List Value
  | [] => []
  | v :: rest => v.held :: heldItems rest

def heldFields : List (String × Value) → List (String × Value)
  | [] => []
  | (key, v) :: rest => (key, v.held) :: heldFields rest

end

theorem heldItems_eq_map (items : List Value) : heldItems items = items.map Value.held := by
  induction items with
  | nil => rfl
  | cons v rest ih => rw [heldItems, ih, List.map_cons]

mutual

/-- How many lists and objects stand inside each other. -/
def Value.depth : Value → Nat
  | .list items => itemsDepth items + 1
  | .object fields => fieldsDepth fields + 1
  | _ => 0

def itemsDepth : List Value → Nat
  | [] => 0
  | v :: rest => max v.depth (itemsDepth rest)

def fieldsDepth : List (String × Value) → Nat
  | [] => 0
  | (_, v) :: rest => max v.depth (fieldsDepth rest)

end

/-- A number is read back if its text is read as that number. -/
def Rereads (x : Binary64) : Prop := Value.ofText (Value.float x).toText = .ok (.float x)

/-- The float that was read, if one was. -/
def Value.float? : Except Fault Value → Option Binary64
  | .ok (.float x) => some x
  | _ => none

theorem rereads_iff {x : Binary64} :
    Rereads x ↔ Value.float? (Value.ofText (Value.float x).toText) = some x := by
  unfold Rereads
  cases Value.ofText (Value.float x).toText with
  | error f => simp [Value.float?]
  | ok v => cases v <;> simp [Value.float?]

instance : DecidablePred Rereads := fun _ => decidable_of_iff _ rereads_iff.symm

/-- **A value of numbers that JSON has**: integers of at most 64 bits, and
floats that are read back. -/
inductive Value.Exact : Value → Prop where
  | null : Exact .null
  | bool (b : Bool) : Exact (.bool b)
  | int {n : Int} (least : -0x8000000000000000 ≤ n) (greatest : n < 0x10000000000000000) :
    Exact (.int n)
  | float {x : Binary64} (rereads : Rereads x) : Exact (.float x)
  | text (s : String) : Exact (.text s)
  | list {items : List Value} (exact : ∀ v ∈ items, v.Exact) : Exact (.list items)
  | object {fields : List (String × Value)} (exact : ∀ f ∈ fields, f.2.Exact) :
    Exact (.object fields)

/-! ## The document of a value -/

mutual

/-- **A value as a document**: what its text is read as. -/
def Value.document : Value → Document
  | .null => .null
  | .bool b => .bool b
  | .int n => .number ⟨decide (n < 0), digitsOf n.natAbs, none, none⟩
  | .float x => (Page.ofText (Value.float x).toText).root
  | .text s => .text (.ok s)
  | .list items => .list (itemDocuments items) none
  | .object fields => .object (fieldDocuments fields) none

def itemDocuments : List Value → List Document
  | [] => []
  | v :: rest => v.document :: itemDocuments rest

def fieldDocuments : List (String × Value) → List (Except Fault String × Document)
  | [] => []
  | (key, v) :: rest => (.ok key, v.document) :: fieldDocuments rest

end

theorem itemDocuments_eq_map (items : List Value) :
    itemDocuments items = items.map Value.document := by
  induction items with
  | nil => rfl
  | cons v rest ih => rw [itemDocuments, ih, List.map_cons]

theorem reads_int (n : Int) : Reads (writeInt n) (Value.int n).document := by
  obtain ⟨c, rest, hdigits⟩ :=
    List.exists_cons_of_ne_nil (Nat.toDigits_ne_nil (b := 10) (n := n.natAbs))
  have hc : c.isDigit = true := (Digits.of_toDigits n.natAbs).digit c (by simp [hdigits])
  have hnumber := number_toDigits (decide (n < 0)) n.natAbs
  rw [hdigits] at hnumber
  rw [Value.document]
  simpa [writeInt, hdigits] using reads_number hc hnumber

theorem exists_reads_float (x : Binary64) :
    ∃ n, (Value.float x).document = .number n ∧ Reads (numberStyle.render x) (.number n) := by
  obtain ⟨c, rest, n, hdecimal, hc, hnumber⟩ :=
    exists_number_decimal numberStyle x.shortest x.negative
  have hreads : Reads (numberStyle.render x) (.number n) := by
    rw [DecimalStyle.render, hdecimal]
    exact reads_number hc hnumber
  have hpage : Page.ofText (Value.float x).toText = ⟨.number n, false⟩ := hreads.ofText
  exact ⟨n, by rw [Value.document, hpage], hreads⟩

theorem writeMoreItems_cons (v : Value) (rest : List Value) :
    writeMoreItems (v :: rest) = ',' :: writeItems (v :: rest) := by
  rw [writeMoreItems, writeItems, List.cons_append]

theorem writeMoreFields_cons (f : String × Value) (rest : List (String × Value)) :
    writeMoreFields (f :: rest) = ',' :: writeFields (f :: rest) := by
  rw [writeMoreFields, writeFields, List.cons_append, List.cons_append]

mutual

/-- **A value is read as its document.** -/
theorem Value.reads_document : ∀ v : Value, Reads v.write v.document
  | .null => reads_null
  | .bool b => reads_bool b
  | .int n => reads_int n
  | .float x => by
    obtain ⟨n, hdocument, hreads⟩ := exists_reads_float x
    rw [hdocument]
    exact hreads
  | .text s => reads_text s
  | .list [] => reads_nil
  | .list (v :: rest) => (readsItems_documents (v :: rest) (List.cons_ne_nil v rest)).list
  | .object [] => reads_empty
  | .object (f :: rest) => (readsMembers_documents (f :: rest) (List.cons_ne_nil f rest)).object

/-- Items, at least one, are read as theirs, -/
theorem readsItems_documents : ∀ items : List Value, items ≠ [] →
    ReadsItems (writeItems items) (itemDocuments items)
  | [], h => absurd rfl h
  | [v], _ => v.reads_document.lastItem
  | v :: w :: rest, _ => by
    rw [writeItems, writeMoreItems_cons, itemDocuments]
    exact v.reads_document.item (readsItems_documents (w :: rest) (List.cons_ne_nil w rest))

/-- and so are fields. -/
theorem readsMembers_documents : ∀ fields : List (String × Value), fields ≠ [] →
    ReadsMembers (writeFields fields) (fieldDocuments fields)
  | [], h => absurd rfl h
  | [(key, v)], _ => by
    have hgap : ∀ c ∈ ([] : List Char), isSpace c = true := by simp
    simpa [writeFields, writeMoreFields, fieldDocuments] using
      v.reads_document.lastMember key hgap
  | (key, v) :: g :: rest, _ => by
    rw [writeFields, writeMoreFields_cons, fieldDocuments, List.append_assoc, List.cons_append]
    exact v.reads_document.member key (readsMembers_documents (g :: rest) (List.cons_ne_nil g rest))

end

/-- The page of a value's text has its document and nothing else. -/
theorem Value.ofText_toText (v : Value) : Page.ofText v.toText = ⟨v.document, false⟩ :=
  v.reads_document.ofText

/-! ## Values and documents -/

/-- **A document holds a value** that nests so deep. -/
def Document.Holds (d : Document) (v : Value) (depth : Nat) : Prop :=
  ∀ k, depth ≤ k → d.toValue k = .ok v

/-- **A text is read as a value.** -/
def ReadsAs (cs : List Char) (v : Value) (depth : Nat) : Prop :=
  ∃ d, Reads cs d ∧ d.Holds v depth

theorem ReadsAs.ofText {cs : List Char} {v : Value} {depth : Nat} (h : ReadsAs cs v depth)
    (hdepth : depth ≤ maxDepth) : Value.ofText (String.ofList cs) = .ok v := by
  obtain ⟨d, hreads, hholds⟩ := h
  have hpage : Page.ofText (String.ofList cs) = ⟨d, false⟩ := hreads.ofText
  rw [Value.ofText, hpage]
  simp [hholds maxDepth hdepth]

/-- The numeral of an integer of at most 64 bits stands for it. -/
theorem value_numeral {n : Int} (least : -0x8000000000000000 ≤ n)
    (greatest : n < 0x10000000000000000) :
    Numeral.value ⟨decide (n < 0), digitsOf n.natAbs, none, none⟩ = some (.int n) := by
  by_cases hneg : n < 0
  · rw [decide_eq_true hneg, value_negative_digitsOf (by omega) (by omega)]
    have hn : -(n.natAbs : Int) = n := by omega
    rw [hn]
  · rw [decide_eq_false hneg, value_digitsOf (by omega)]
    have hn : (n.natAbs : Int) = n := by omega
    rw [hn]

/-- **An integer of at most 64 bits is held.** -/
theorem holds_int {n : Int} (least : -0x8000000000000000 ≤ n)
    (greatest : n < 0x10000000000000000) : (Value.int n).document.Holds (.int n) 0 := by
  intro k _
  rw [Value.document, Document.toValue, value_numeral least greatest]

/-- **A float is held** if reading its text gives it back. -/
theorem holds_float {x : Binary64} (h : Rereads x) :
    (Value.float x).document.Holds (.float x) 0 := by
  intro k _
  obtain ⟨n, hdocument, -⟩ := exists_reads_float x
  have hback : Value.ofText (Value.float x).toText = .ok (.float x) := h
  rw [Value.ofText, Value.ofText_toText, hdocument, Document.toValue] at hback
  rw [hdocument, Document.toValue]
  cases hn : n.value with
  | none =>
    rw [hn] at hback
    cases hback
  | some v =>
    rw [hn] at hback
    cases hback
    rfl

theorem listToValue_cons {k : Nat} {d : Document} {v : Value} {ds : List Document}
    {vs : List Value} (hd : d.toValue k = .ok v) (hds : Document.listToValue k ds = .ok vs) :
    Document.listToValue k (d :: ds) = .ok (v :: vs) := by
  rw [Document.listToValue, hd, hds]
  rfl

/-- **A list is held** if its items are. -/
theorem holds_list {items : List Value} (h : ∀ v ∈ items, v.document.Holds v.held v.depth) :
    (Value.list items).document.Holds (Value.list items).held (Value.list items).depth := by
  have hitems : ∀ k, itemsDepth items ≤ k →
      Document.listToValue k (itemDocuments items) = .ok (heldItems items) := by
    induction items with
    | nil => exact fun _ _ => rfl
    | cons v rest ih =>
      intro k hk
      rw [itemsDepth, Nat.max_le] at hk
      exact listToValue_cons (h v List.mem_cons_self k hk.1)
        (ih (fun w hw => h w (List.mem_cons_of_mem v hw)) k hk.2)
  intro k hk
  rw [Value.depth] at hk
  obtain ⟨k, rfl⟩ := Nat.exists_eq_add_of_le' (Nat.le_trans (Nat.le_add_left 1 _) hk)
  rw [Value.document, Document.toValue, hitems k (by omega)]
  rfl

theorem fieldsToValue_cons {k : Nat} (key : String) {d : Document} {v : Value}
    {ds : List (Except Fault String × Document)} {fs : List (String × Value)}
    (hd : d.toValue k = .ok v) (hds : Document.fieldsToValue k ds = .ok fs) :
    Document.fieldsToValue k ((.ok key, d) :: ds) = .ok ((key, v) :: fs) := by
  rw [Document.fieldsToValue, hd, hds]
  rfl

/-- **An object is held** if the values of its fields are. -/
theorem holds_object {fields : List (String × Value)}
    (h : ∀ f ∈ fields, f.2.document.Holds f.2.held f.2.depth) :
    (Value.object fields).document.Holds (Value.object fields).held
      (Value.object fields).depth := by
  have hfields : ∀ k, fieldsDepth fields ≤ k →
      Document.fieldsToValue k (fieldDocuments fields) = .ok (heldFields fields) := by
    induction fields with
    | nil => exact fun _ _ => rfl
    | cons f rest ih =>
      intro k hk
      rw [fieldsDepth, Nat.max_le] at hk
      exact fieldsToValue_cons f.1 (h f List.mem_cons_self k hk.1)
        (ih (fun g hg => h g (List.mem_cons_of_mem f hg)) k hk.2)
  intro k hk
  rw [Value.depth] at hk
  obtain ⟨k, rfl⟩ := Nat.exists_eq_add_of_le' (Nat.le_trans (Nat.le_add_left 1 _) hk)
  rw [Value.document, Document.toValue, hfields k (by omega)]
  rfl

/-! ## Values -/

/-- **The document of a value holds it** as it is held. -/
theorem Value.Exact.holds {v : Value} (h : v.Exact) : v.document.Holds v.held v.depth := by
  induction h with
  | null => exact fun _ _ => rfl
  | bool b => exact fun _ _ => rfl
  | int least greatest => exact holds_int least greatest
  | float rereads => exact holds_float rereads
  | text s => exact fun _ _ => rfl
  | list _ ih => exact holds_list ih
  | object _ ih => exact holds_object ih

/-- **A value is read back as it is held.** -/
theorem Value.Exact.readsAs {v : Value} (h : v.Exact) : ReadsAs v.write v.held v.depth :=
  ⟨v.document, v.reads_document, h.holds⟩

/-- **A value is read back from its text** if it does not nest too deep. -/
theorem Value.Exact.ofText {v : Value} (h : v.Exact) (hdepth : v.depth ≤ maxDepth) :
    Value.ofText v.toText = .ok v.held :=
  h.readsAs.ofText hdepth

/-! ## Fields in order -/

theorem precedes_irrefl (cs : List Char) : precedes cs cs = false := by
  induction cs with
  | nil => rfl
  | cons c rest ih => rw [precedes, if_pos rfl, ih]

theorem precedes_asymm {cs ds : List Char} (h : precedes cs ds = true) :
    precedes ds cs = false := by
  induction cs generalizing ds with
  | nil => cases ds <;> rfl
  | cons c cs ih =>
    cases ds with
    | nil => cases h
    | cons d ds =>
      rw [precedes] at h ⊢
      by_cases hcd : c = d
      · rw [if_pos hcd] at h
        rw [if_pos hcd.symm, ih h]
      · rw [if_neg hcd, decide_eq_true_eq] at h
        rw [if_neg (Ne.symm hcd), decide_eq_false_iff_not]
        omega

/-- Fields in the order of their keys. -/
abbrev Ascending {α : Type} (fields : List (String × α)) : Prop :=
  fields.Pairwise fun f g => precedes f.1.toList g.1.toList = true

theorem insertField_of_precedes {key : String} {fields : List (String × Value)}
    (h : ∀ f ∈ fields, precedes f.1.toList key.toList = true) (v : Value) :
    insertField key v fields = fields ++ [(key, v)] := by
  induction fields with
  | nil => rfl
  | cons f rest ih =>
    have hlt := h f List.mem_cons_self
    have hne : key ≠ f.1 := by
      rintro rfl
      rw [precedes_irrefl] at hlt
      cases hlt
    have hnot : ¬ precedes key.toList f.1.toList = true := by simp [precedes_asymm hlt]
    rw [insertField, if_neg hne, if_neg hnot, ih fun g hg => h g (List.mem_cons_of_mem f hg)]
    rfl

/-- **Fields that ascend are held as they are.** -/
theorem ofFields_of_ascending {fields : List (String × Value)} (h : Ascending fields) :
    Value.ofFields fields = .object fields := by
  have hfold : ∀ acc rest : List (String × Value), Ascending (acc ++ rest) →
      rest.foldl (fun acc f => insertField f.1 f.2 acc) acc = acc ++ rest := by
    intro acc rest
    induction rest generalizing acc with
    | nil => simp
    | cons f rest ih =>
      intro hacc
      have hlt : ∀ g ∈ acc, precedes g.1.toList f.1.toList = true := fun g hg =>
        (List.pairwise_append.1 hacc).2.2 g hg f List.mem_cons_self
      have hsplit : acc ++ f :: rest = acc ++ [f] ++ rest := by simp
      rw [hsplit] at hacc ⊢
      rw [List.foldl_cons, insertField_of_precedes hlt]
      exact ih (acc ++ [f]) hacc
  exact congrArg Value.object (hfold [] fields h)

end Json

end Telemetry
