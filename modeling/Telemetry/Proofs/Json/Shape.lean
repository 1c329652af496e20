import Telemetry.Proofs.Json.Value
/-!
# Json — typed values that are read back

What becomes of the parts of a record that is written and read again: each of
them is held as it is written, up to the order of fields inside it, and read as
what it was.
-/

namespace Telemetry

namespace Json

/-- A number is of a kind. -/
def IntKind.Fits (kind : IntKind) (n : Int) : Prop := kind.least ≤ n ∧ n ≤ kind.greatest

instance (kind : IntKind) (n : Int) : Decidable (kind.Fits n) := inferInstanceAs (Decidable (_ ∧ _))

namespace Value

/-! ## Parts as they are written -/

theorem Exact.i64 {n : Int} (h : IntKind.i64.Fits n) : Exact (.int n) := by
  obtain ⟨least, greatest⟩ := h
  simp only [IntKind.i64] at least greatest
  exact .int (by omega) (by omega)

theorem Exact.ofOption {α : Type} {f : α → Value} {o : Option α} (h : ∀ a ∈ o, (f a).Exact) :
    (ofOption f o).Exact := by
  cases o with
  | none => exact .null
  | some a => exact h a rfl

theorem Exact.map {α : Type} {f : α → Value} {as : List α} (h : ∀ a ∈ as, (f a).Exact) :
    Exact (.list (as.map f)) :=
  .list fun v hv => by
    obtain ⟨a, ha, rfl⟩ := List.mem_map.1 hv
    exact h a ha

/-! ## Parts as they are held -/

@[simp] theorem held_null : held .null = .null := rfl

@[simp] theorem held_bool (b : Bool) : held (.bool b) = .bool b := rfl

@[simp] theorem held_int (n : Int) : held (.int n) = .int n := rfl

@[simp] theorem held_float (x : Binary64) : held (.float x) = .float x := rfl

@[simp] theorem held_text (s : String) : held (.text s) = .text s := rfl

@[simp] theorem held_list (items : List Value) : held (.list items) = .list (items.map held) := by
  rw [held, heldItems_eq_map]

@[simp] theorem held_object (fields : List (String × Value)) :
    held (.object fields) = .ofFields (heldFields fields) := by
  rw [held]

@[simp] theorem held_ofOption {α : Type} (f : α → Value) (o : Option α) :
    (ofOption f o).held = ofOption (fun a => (f a).held) o := by
  cases o <;> rfl

/-! ## Parts as they are read -/

@[simp] theorem ok_bind {ε α β : Type} (a : α) (f : α → Except ε β) :
    (Except.ok a >>= f) = f a := rfl

@[simp] theorem readText_text (s : String) : readText (.text s) = .ok s := rfl

@[simp] theorem readBool_bool (b : Bool) : readBool (.bool b) = .ok b := rfl

@[simp] theorem readFloat_float (x : Binary64) : readFloat (.float x) = .ok x := rfl

theorem readInt_int {kind : IntKind} {n : Int} (h : kind.Fits n) :
    readInt kind (.int n) = .ok n :=
  if_pos h

variable {α : Type} {f : α → Value} {read : Value → Except ShapeError α}

theorem readOption_ofOption {o : Option α} (hread : ∀ a ∈ o, read (f a) = .ok a)
    (hsome : ∀ a, f a ≠ .null) : readOption read (ofOption f o) = .ok o := by
  cases o with
  | none => rfl
  | some a =>
    rw [ofOption, readOption, hread a rfl]
    · rfl
    · exact hsome a

@[simp] theorem readOption_text (o : Option String) :
    readOption readText (ofOption .text o) = .ok o :=
  readOption_ofOption (fun _ _ => rfl) fun _ h => by cases h

@[simp] theorem readOption_bool (o : Option Bool) :
    readOption readBool (ofOption .bool o) = .ok o :=
  readOption_ofOption (fun _ _ => rfl) fun _ h => by cases h

/-- Steps that succeed one by one. -/
theorem mapM_eq_ok {β ε : Type} {g : β → Except ε α} {h : α → β} {as : List α}
    (hg : ∀ a ∈ as, g (h a) = .ok a) : (as.map h).mapM g = .ok as := by
  induction as with
  | nil => rfl
  | cons a rest ih =>
    rw [List.map_cons, List.mapM_cons, hg a List.mem_cons_self,
      ih fun b hb => hg b (List.mem_cons_of_mem a hb)]
    rfl

theorem readList_list {as : List α} (h : ∀ a ∈ as, read (f a) = .ok a) :
    readList read (.list (as.map f)) = .ok as :=
  mapM_eq_ok h

theorem readMap_object {as : List (String × α)} (h : ∀ a ∈ as, read (f a.2) = .ok a.2) :
    readMap read (.object (as.map fun a => (a.1, f a.2))) = .ok as := by
  refine mapM_eq_ok fun a ha => ?_
  rw [h a ha]
  rfl

end Value

/-- **A value carries what is read from it**: its text is read back, and what is
held then is read as this. -/
structure Carries {α : Type} (read : Value → Except ShapeError α) (v : Value) (a : α) : Prop where
  exact : v.Exact
  read_held : read v.held = .ok a

end Json

end Telemetry
