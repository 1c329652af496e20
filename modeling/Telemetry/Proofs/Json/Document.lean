import Telemetry.Proofs.Failure
import Telemetry.Proofs.Json.Shape
/-!
# Json — typed values straight from a text

What is written is read from its document (`readText_toText`), part by part: a
text as that text, a number of a kind as that number, an object field by field
(`Document.readRecord_object`). In the other direction, what every field leaves
true holds of whatever record is read, in whichever notation
(`Document.readRecord_invariant`).
-/

namespace Telemetry

namespace Json

/-- **A value's text is read as its document is.** -/
theorem readText_toText {α : Type} (read : Document → Except Error α) (v : Value) :
    readText read v.toText = read v.document := by
  rw [readText, v.ofText_toText]
  cases read v.document <;> rfl

theorem Outline.finish_of_finishObject {δ τ : Type} {s : Outline δ τ} {draft : δ} {r : τ}
    (h : s.finishObject draft = .ok r) : s.finish draft = .ok r := by
  unfold finishObject at h
  split at h <;> cases h
  assumption

theorem Outline.finish_of_finishList {δ τ : Type} {s : Outline δ τ} {draft : δ} {r : τ}
    (h : s.finishList draft = .ok r) : s.finish draft = .ok r := by
  unfold finishList at h
  split at h <;> cases h
  assumption

namespace Document

/-! ## Parts as they are read -/

@[simp] theorem readTextAs_text (expected s : String) :
    readTextAs expected (Value.text s).document = .ok s := rfl

@[simp] theorem readText_text (s : String) : readText (Value.text s).document = .ok s := rfl

@[simp] theorem readBool_bool (b : Bool) : readBool (Value.bool b).document = .ok b := rfl

theorem readInt_int {kind : IntKind} {n : Int} (h : kind.Fits n)
    (hleast : -0x8000000000000000 ≤ n) (hgreatest : n < 0x10000000000000000) :
    readInt kind (Value.int n).document = .ok n := by
  rw [Value.document, readInt, value_numeral hleast hgreatest]
  simp [Value.readInt_int h]

variable {α : Type} {f : α → Value} {read : Document → Except Error α}

theorem readOption_ofOption {o : Option α} (hread : ∀ a ∈ o, read (f a).document = .ok a)
    (hsome : ∀ a, (f a).document ≠ .null) :
    readOption read (Value.ofOption f o).document = .ok o := by
  cases o with
  | none => rfl
  | some a =>
    rw [Value.ofOption, readOption, hread a rfl]
    · rfl
    · exact hsome a

theorem readList_list {as : List α} (h : ∀ a ∈ as, read (f a).document = .ok a) :
    readList read (Value.list (as.map f)).document = .ok as := by
  have hitems : (as.map fun a => (f a).document).mapM read = .ok as := Value.mapM_eq_ok h
  rw [Value.document, readList, itemDocuments_eq_map, List.map_map]
  exact congrArg (· >>= _) hitems

/-! ## Records -/

variable {δ τ : Type} {s : Shape Document Error δ τ}

/-- Fields of a record that come once each are read one after the other. -/
theorem readFields_fieldDocuments {fields : List (String × Value)} {seen : List String}
    (hknown : ∀ f ∈ fields, f.1 ∈ s.fields) (hnew : ∀ f ∈ fields, f.1 ∉ seen)
    (honce : (fields.map Prod.fst).Nodup) (draft : δ) :
    readFields s seen draft (fieldDocuments fields) =
      fields.foldlM (fun d f => s.set d f.1 f.2.document) draft := by
  induction fields generalizing seen draft with
  | nil => rfl
  | cons f rest ih =>
    rw [List.map_cons, List.nodup_cons] at honce
    rw [fieldDocuments, readFields, if_pos (hknown f List.mem_cons_self),
      if_neg (hnew f List.mem_cons_self), List.foldlM_cons]
    refine bind_congr fun draft =>
      ih (fun g hg => hknown g (List.mem_cons_of_mem f hg)) (fun g hg hseen => ?_) honce.2 draft
    rcases List.mem_cons.1 hseen with heq | hseen
    · exact honce.1 (heq ▸ List.mem_map_of_mem hg)
    · exact hnew g (List.mem_cons_of_mem f hg) hseen

/-- **An object is read field by field**, if it has fields of the record only and
each of them once. -/
theorem readRecord_object {fields : List (String × Value)} (hknown : ∀ f ∈ fields, f.1 ∈ s.fields)
    (honce : (fields.map Prod.fst).Nodup) :
    readRecord s (Value.object fields).document =
      fields.foldlM (fun d f => s.set d f.1 f.2.document) s.blank >>= fun draft =>
        (s.finishObject draft).mapError .shape := by
  rw [Value.document, readRecord, readFields_fieldDocuments hknown (by simp) honce]
  refine bind_congr fun draft => ?_
  dsimp only
  cases s.finishObject draft <;> rfl

/-! ## What is read -/

/-- Nothing is read from what is of another type. -/
theorem mismatch_ne_ok (expected : String) (d : Document) (a : α) :
    d.mismatch expected ≠ .ok a := by
  unfold mismatch
  split <;> nofun

/-- A whole number that is read is of the kind that was asked for. -/
theorem fits_of_readInt {kind : IntKind} {d : Document} {n : Int}
    (h : d.readInt kind = .ok n) : kind.Fits n := by
  unfold readInt at h
  split at h
  · next m =>
    cases hvalue : m.value with
    | none =>
      rw [hvalue] at h
      cases h
    | some v =>
      rw [hvalue] at h
      cases v with
      | int k =>
        dsimp only [Value.readInt] at h
        split at h
        · next heq =>
          split at heq
          · cases heq
            cases h
            assumption
          · cases heq
        · cases h
      | _ => cases h
  · exact absurd h (mismatch_ne_ok _ _ _)

/-- An optional part that is there has been read. -/
theorem read_of_readOption {d : Document} {o : Option α} (h : d.readOption read = .ok o) :
    ∀ a ∈ o, read d = .ok a := by
  unfold readOption at h
  split at h
  · cases h
    simp
  · cases hd : read d with
    | error e =>
      rw [hd] at h
      cases h
    | ok a =>
      rw [hd] at h
      cases h
      simp

/-- Every item of a list has been read. -/
theorem exists_read_of_readList {d : Document} {as : List α} (h : d.readList read = .ok as) :
    ∀ a ∈ as, ∃ d, read d = .ok a := by
  unfold readList at h
  split at h
  · next items stop =>
    obtain ⟨as', hitems, h⟩ := bind_eq_ok_iff.1 h
    cases stop with
    | some b => cases h
    | none =>
      cases h
      clear h
      induction items generalizing as with
      | nil =>
        cases hitems
        simp
      | cons d rest ih =>
        rw [List.mapM_cons] at hitems
        obtain ⟨a, ha, hitems⟩ := bind_eq_ok_iff.1 hitems
        obtain ⟨bs, hbs, hitems⟩ := bind_eq_ok_iff.1 hitems
        cases hitems
        intro b hb
        rcases List.mem_cons.1 hb with rfl | hb
        · exact ⟨d, ha⟩
        · exact ih hbs b hb
  · exact absurd h (mismatch_ne_ok _ _ _)

section invariant

variable {P : δ → Prop} {Q : τ → Prop}
  (hset : ∀ draft key d draft', P draft → s.set draft key d = .ok draft' → P draft')

include hset

theorem readFields_invariant {fields : List (Except Fault String × Document)} {seen : List String}
    {draft draft' : δ} (hdraft : P draft) (h : readFields s seen draft fields = .ok draft') :
    P draft' := by
  induction fields generalizing seen draft with
  | nil =>
    cases h
    exact hdraft
  | cons f rest ih =>
    obtain ⟨key, d⟩ := f
    cases key with
    | error f => cases h
    | ok k =>
      rw [readFields] at h
      split at h
      · split at h
        · cases h
        · obtain ⟨next, hnext, h⟩ := bind_eq_ok_iff.1 h
          exact ih (hset _ _ _ _ hdraft hnext) h
      · split at h
        · cases h
        · exact ih hdraft h

theorem foldlM_invariant {items : List (String × Document)} {draft draft' : δ} (hdraft : P draft)
    (h : items.foldlM (fun d f => s.set d f.1 f.2) draft = .ok draft') : P draft' := by
  induction items generalizing draft with
  | nil =>
    cases h
    exact hdraft
  | cons f rest ih =>
    rw [List.foldlM_cons] at h
    obtain ⟨next, hnext, h⟩ := bind_eq_ok_iff.1 h
    exact ih (hset _ _ _ _ hdraft hnext) h

/-- **What every field leaves true holds of the record that is read**, whether it
is written as an object or as a list. -/
theorem readRecord_invariant (hblank : P s.blank)
    (hfinish : ∀ draft r, P draft → s.finish draft = .ok r → Q r) {d : Document} {r : τ}
    (h : readRecord s d = .ok r) : Q r := by
  unfold readRecord at h
  split at h
  · obtain ⟨draft, hdraft, h⟩ := bind_eq_ok_iff.1 h
    split at h
    · cases h
    · split at h
      · next hr =>
        cases h
        exact hfinish draft r (readFields_invariant hset hblank hdraft)
          (Outline.finish_of_finishObject hr)
      · cases h
  · obtain ⟨draft, hdraft, h⟩ := bind_eq_ok_iff.1 h
    split at h
    · split at h <;> cases h
    split at h
    · cases h
    · split at h
      · next hr =>
        cases h
        exact hfinish draft r (foldlM_invariant hset hblank hdraft)
          (Outline.finish_of_finishList hr)
      · cases h
  · exact absurd h (mismatch_ne_ok _ _ _)

end invariant

end Document

end Json

end Telemetry
