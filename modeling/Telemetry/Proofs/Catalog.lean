import Mathlib.Data.List.Induction
import Mathlib.Data.List.Nodup
import Telemetry.Catalog
/-!
# Catalogs — what the index stands for

A catalog is `Indexed` when its index sends each key to the one place an
item of that key stands at. Every operation keeps this, and under it the
index can be forgotten: looking up is searching the list
(`get?_eq_find?`) and putting is `place` (`toList_put`).

`gather` is the fold that every merge of this library is: each incoming
item makes a new entry out of the entry its key has so far. Its keys come
in order of first occurrence (`map_key_gather`), and the entry of a key
depends on the items of that key alone (`find?_gather`).
-/

namespace Telemetry

namespace Catalog

variable {κ α ι : Type} [BEq κ]

/-! ## Lists with a key -/

section Lists

variable {key : α → κ}

/-- Puts an item in the place of the first one with its key, or at the
end. -/
def place (key : α → κ) (a : α) : List α → List α
  | [] => [a]
  | b :: rest => if key b == key a then a :: rest else b :: place key a rest

/-- Takes in items one after the other, each making the entry of its key
anew. -/
def gather (key : α → κ) (keyOf : ι → κ) (make : ι → Option α → α) (l : List α)
    (xs : List ι) : List α :=
  xs.foldl (fun l x => place key (make x (l.find? (key · == keyOf x))) l) l

/-- The entry of a key after some items of that key, out of the one before
them. -/
def entry (make : ι → Option α → α) (o : Option α) (xs : List ι) : Option α :=
  xs.foldl (fun o x => some (make x o)) o

omit [BEq κ] in
@[simp] theorem entry_nil (make : ι → Option α → α) (o : Option α) : entry make o [] = o := rfl

omit [BEq κ] in
@[simp] theorem entry_cons (make : ι → Option α → α) (o : Option α) (x : ι) (xs : List ι) :
    entry make o (x :: xs) = entry make (some (make x o)) xs := rfl

omit [BEq κ] in
theorem entry_append (make : ι → Option α → α) (o : Option α) (xs ys : List ι) :
    entry make o (xs ++ ys) = entry make (entry make o xs) ys :=
  List.foldl_append

variable [LawfulBEq κ]

/-- A new key goes to the end. -/
theorem place_of_new {a : α} {l : List α} (h : ∀ b ∈ l, key b ≠ key a) :
    place key a l = l ++ [a] := by
  induction l with
  | nil => rfl
  | cons b rest ih =>
    have hb : key b ≠ key a := h b List.mem_cons_self
    rw [place, if_neg (by simpa using hb), ih fun c hc => h c (List.mem_cons_of_mem _ hc)]
    rfl

/-- A known key stays where it is. -/
theorem place_eq_set {a b : α} {l : List α} {p : Nat} (hp : l[p]? = some b)
    (hk : key b = key a) (hfirst : ∀ q c, l[q]? = some c → key c = key a → p ≤ q) :
    place key a l = l.set p a := by
  induction l generalizing p with
  | nil => simp at hp
  | cons d rest ih =>
    cases p with
    | zero =>
      obtain rfl : d = b := by simpa using hp
      rw [place, if_pos (by simpa using hk), List.set_cons_zero]
    | succ p =>
      have hd : key d ≠ key a := fun hd => by
        have := hfirst 0 d (by simp) hd
        omega
      rw [place, if_neg (by simpa using hd), List.set_cons_succ,
        ih (by simpa using hp) fun q c hq hc => ?_]
      have := hfirst (q + 1) c (by simpa using hq) hc
      omega

omit [LawfulBEq κ] in
/-- What is put is one of the items, and the others were there before. -/
theorem mem_of_mem_place {a b : α} {l : List α} (h : b ∈ place key a l) : b = a ∨ b ∈ l := by
  induction l with
  | nil => simpa [place] using h
  | cons d rest ih =>
    rw [place] at h
    split at h
    · rcases List.mem_cons.1 h with h | h
      · exact Or.inl h
      · exact Or.inr (List.mem_cons_of_mem _ h)
    · rcases List.mem_cons.1 h with h | h
      · exact Or.inr (h ▸ List.mem_cons_self)
      · exact (ih h).imp_right (List.mem_cons_of_mem _)

/-- Putting an item where it stands changes nothing. -/
theorem place_self {a : α} {l : List α} (h : l.find? (key · == key a) = some a) :
    place key a l = l := by
  induction l with
  | nil => simp at h
  | cons b rest ih =>
    rw [place]
    by_cases hb : key b = key a
    · have hbeq : (key b == key a) = true := by simpa using hb
      rw [List.find?_cons, hbeq] at h
      rw [if_pos hbeq, Option.some.inj h]
    · have hbeq : (key b == key a) = false := by simpa using hb
      rw [List.find?_cons, hbeq] at h
      rw [if_neg (by simpa using hb), ih h]

/-- With keys of their own, items are found under them. -/
theorem find?_of_mem {a : α} {l : List α} (hn : (l.map key).Nodup) (ha : a ∈ l) :
    l.find? (key · == key a) = some a := by
  obtain ⟨b, hb⟩ := Option.isSome_iff_exists.1
    (List.find?_isSome.2 ⟨a, ha, by simp⟩ : (l.find? (key · == key a)).isSome)
  have hk : key b = key a := by simpa using List.find?_some hb
  rw [hb, List.inj_on_of_nodup_map hn (List.mem_of_find?_eq_some hb) ha hk]

/-- Placing an item leaves all other keys alone. -/
theorem find?_place (a : α) (l : List α) (k : κ) :
    (place key a l).find? (key · == k) =
      if key a == k then some a else l.find? (key · == k) := by
  induction l with
  | nil => by_cases h : key a = k <;> simp [place, h]
  | cons b rest ih =>
    by_cases hb : key b = key a
    · by_cases h : key a = k
      · simp [place, hb, h]
      · simp [place, hb, h]
    · rw [place, if_neg (by simpa using hb), List.find?_cons, List.find?_cons, ih]
      by_cases hbk : key b = k
      · subst hbk
        have hab : (key a == key b) = false := by simpa using fun h => hb h.symm
        rw [hab, beq_self_eq_true]
        rfl
      · have hbk' : (key b == k) = false := by simpa using hbk
        rw [hbk']

/-- Placing an item lists its key last, unless it is known. -/
theorem map_key_place (a : α) (l : List α) :
    (place key a l).map key = if key a ∈ l.map key then l.map key else l.map key ++ [key a] := by
  induction l with
  | nil => simp [place]
  | cons b rest ih =>
    by_cases hb : key b = key a
    · simp [place, hb]
    · have hab : key a ≠ key b := fun h => hb h.symm
      rw [place, if_neg (by simpa using hb), List.map_cons, ih]
      by_cases hr : key a ∈ rest.map key <;> simp [hr, hab]

omit [LawfulBEq κ] in
theorem gather_append {keyOf : ι → κ} {make : ι → Option α → α} (l : List α) (xs ys : List ι) :
    gather key keyOf make l (xs ++ ys) = gather key keyOf make (gather key keyOf make l xs) ys :=
  List.foldl_append

/-- **Keys come in order of first occurrence.** -/
theorem map_key_gather {keyOf : ι → κ} {make : ι → Option α → α}
    (hmake : ∀ x o, (∀ a ∈ o, key a = keyOf x) → key (make x o) = keyOf x) (xs : List ι) :
    (gather key keyOf make [] xs).map key = (xs.map keyOf).eraseDups := by
  induction xs using List.reverseRecOn with
  | nil => rfl
  | append_singleton xs x ih =>
    have hx : key (make x ((gather key keyOf make [] xs).find? (key · == keyOf x))) = keyOf x :=
      hmake x _ fun a ha => by simpa using List.find?_some ha
    have hseen : keyOf x ∈ (xs.map keyOf).eraseDups ↔ keyOf x ∈ xs.map keyOf := List.mem_eraseDups
    rw [gather_append, List.map_append, List.eraseDups_append, ← ih]
    simp only [gather, List.foldl_cons, List.foldl_nil] at hx ih ⊢
    rw [map_key_place, hx, ih]
    by_cases h : keyOf x ∈ xs.map keyOf
    · -- a key seen before is listed already
      rw [if_pos (hseen.2 h)]
      simp [List.removeAll, h]
    · rw [if_neg fun hk => h (hseen.1 hk)]
      simp [List.removeAll, h, List.eraseDups_cons]

/-- **The entry of a key is made of the items of that key alone**, in
their order, out of the entry it had before. -/
theorem find?_gather {keyOf : ι → κ} {make : ι → Option α → α}
    (hmake : ∀ x o, (∀ a ∈ o, key a = keyOf x) → key (make x o) = keyOf x) (l : List α)
    (xs : List ι) (k : κ) :
    (gather key keyOf make l xs).find? (key · == k) =
      entry make (l.find? (key · == k)) (xs.filter (keyOf · == k)) := by
  induction xs using List.reverseRecOn with
  | nil => rfl
  | append_singleton xs x ih =>
    have hx : key (make x ((gather key keyOf make l xs).find? (key · == keyOf x))) = keyOf x :=
      hmake x _ fun a ha => by simpa using List.find?_some ha
    rw [gather_append, List.filter_append, entry_append, ← ih]
    change (place key _ _).find? _ = _
    rw [find?_place, hx]
    by_cases h : keyOf x = k <;> simp [h]

/-- Entries have keys of their own whatever is gathered. -/
theorem nodup_gather {keyOf : ι → κ} {make : ι → Option α → α} {l : List α}
    (hn : (l.map key).Nodup) (xs : List ι) : ((gather key keyOf make l xs).map key).Nodup := by
  induction xs using List.reverseRecOn with
  | nil => exact hn
  | append_singleton xs x ih =>
    rw [gather_append]
    change ((place key _ _).map key).Nodup
    rw [map_key_place]
    split
    · exact ih
    · next hnew =>
      refine List.nodup_append.2 ⟨ih, by simp, fun a ha b hb => ?_⟩
      rw [List.mem_singleton.1 hb]
      exact fun h => hnew (h ▸ ha)

/-- **An entry gathered** is made of the items of its key. -/
theorem foldl_of_mem_gather {keyOf : ι → κ} {make : ι → Option α → α}
    (hmake : ∀ x o, (∀ a ∈ o, key a = keyOf x) → key (make x o) = keyOf x) {xs : List ι} {a : α}
    (ha : a ∈ gather key keyOf make [] xs) :
    entry make none (xs.filter (keyOf · == key a)) = some a := by
  have hnone : (([] : List α).map key).Nodup := List.nodup_nil
  have hfind := find?_of_mem (nodup_gather hnone xs) ha
  rw [find?_gather hmake] at hfind
  exact hfind

omit [BEq κ] [LawfulBEq κ] in
/-- What holds of the entry a first item makes, and is kept by every
further one, holds of the entry all items make. -/
theorem entry_induction {make : ι → Option α → α} {P : List ι → α → Prop}
    (first : ∀ x, P [x] (make x none)) (more : ∀ xs x a, P xs a → P (xs ++ [x]) (make x (some a)))
    {xs : List ι} {a : α} (h : entry make none xs = some a) : P xs a := by
  induction xs using List.reverseRecOn generalizing a with
  | nil => cases h
  | append_singleton xs x ih =>
    rw [entry_append] at h
    obtain rfl := Option.some.inj h
    cases ho : entry make none xs with
    | none =>
      -- only where no item came yet is there no entry
      cases xs using List.reverseRecOn with
      | nil => exact first x
      | append_singleton => simp [entry_append] at ho
    | some b => exact more xs x b (ih ho)

end Lists

/-! ## The index -/

variable [Hashable κ] {key : α → κ} {c : Catalog κ α}

/-- **The index is right**: it sends a key to a place exactly when an item
of that key stands there. -/
def Indexed (key : α → κ) (c : Catalog κ α) : Prop :=
  ∀ k p, c.positions[k]? = some p ↔ ∃ a, c.items[p]? = some a ∧ key a = k

/-- **A catalog is exact** if its index names a place for a key exactly when
the place is in bounds and its item has the key. So no two items share a
key, and what is found under a key is what a search finds. -/
structure Exact (key : α → κ) (c : Catalog κ α) : Prop where
  place : ∀ k p, c.positions[k]? = some p ↔ ∃ h : p < c.items.size, key c.items[p] = k
  nodup : (c.toList.map key).Nodup
  find : ∀ k, c.get? k = c.toList.find? (key · == k)

/-- Nothing is found where nothing is listed. -/
theorem get?_empty (k : κ) : (empty : Catalog κ α).get? k = none := by
  simp [get?, empty]

/-- Putting what is found changes nothing. -/
theorem put_get? {k : κ} {a : α} (h : c.get? k = some a) : c.put k a = c := by
  unfold get? at h
  cases hk : c.positions[k]? with
  | none => simp [hk] at h
  | some p =>
    rw [hk] at h
    obtain ⟨hp, rfl⟩ := Array.getElem?_eq_some_iff.1 h
    have hitems : c.items.setIfInBounds p c.items[p] = c.items := by
      simp [Array.setIfInBounds, hp]
    simp only [put, hk, hitems]

/-- Two items of one key stand at one place. -/
theorem Indexed.place_unique (h : Indexed key c) {p q : Nat} {a b : α}
    (ha : c.items[p]? = some a) (hb : c.items[q]? = some b) (hk : key a = key b) : p = q := by
  have hp := (h (key a) p).2 ⟨a, ha, rfl⟩
  have hq := (h (key a) q).2 ⟨b, hb, hk.symm⟩
  exact Option.some.inj (hp.symm.trans hq)

/-- No two items share a key. -/
theorem Indexed.nodup (h : Indexed key c) : (c.toList.map key).Nodup := by
  rw [List.nodup_iff_getElem?_ne_getElem?]
  intro p q hpq hq heq
  rw [List.length_map] at hq
  obtain ⟨a, ha⟩ : ∃ a, c.toList[p]? = some a := ⟨_, List.getElem?_eq_getElem (by omega)⟩
  obtain ⟨b, hb⟩ : ∃ b, c.toList[q]? = some b := ⟨_, List.getElem?_eq_getElem hq⟩
  simp only [List.getElem?_map, ha, hb, Option.map_some, Option.some.injEq] at heq
  have := h.place_unique (by simpa [toList] using ha) (by simpa [toList] using hb) heq
  omega

/-- A key without a place has no item. -/
theorem Indexed.ne_of_getElem?_eq_none (h : Indexed key c) {k : κ}
    (hk : c.positions[k]? = none) {b : α} (hb : b ∈ c.toList) : key b ≠ k := by
  intro hbk
  obtain ⟨p, hp⟩ := List.mem_iff_getElem?.1 hb
  have := (h k p).2 ⟨b, by simpa [toList] using hp, hbk⟩
  simp [hk] at this

variable [LawfulBEq κ]

/-- **Looking up is searching the list.** -/
theorem Indexed.get?_eq_find? (h : Indexed key c) (k : κ) :
    c.get? k = c.toList.find? (key · == k) := by
  unfold get?
  cases hk : c.positions[k]? with
  | none =>
    refine (List.find?_eq_none.2 fun b hb => ?_).symm
    simpa using h.ne_of_getElem?_eq_none hk hb
  | some p =>
    obtain ⟨a, ha, hak⟩ := (h k p).1 hk
    obtain ⟨b, hb⟩ : ∃ b, c.toList.find? (key · == k) = some b := by
      refine Option.isSome_iff_exists.1 (List.find?_isSome.2 ⟨a, ?_, by simpa using hak⟩)
      exact List.mem_iff_getElem?.2 ⟨p, by simpa [toList] using ha⟩
    obtain ⟨q, hq⟩ := List.mem_iff_getElem?.1 (List.mem_of_find?_eq_some hb)
    have hbk : key b = k := by simpa using List.find?_some hb
    have hq' : c.items[q]? = some b := by simpa [toList] using hq
    obtain rfl := h.place_unique ha hq' (hak.trans hbk.symm)
    rw [hb]
    exact hq'

/-- An index that is right is exact. -/
theorem Indexed.exact (h : Indexed key c) : Exact key c where
  place k p := by
    rw [h k p]
    constructor
    · rintro ⟨a, ha, rfl⟩
      obtain ⟨hp, rfl⟩ := Array.getElem?_eq_some_iff.1 ha
      exact ⟨hp, rfl⟩
    · rintro ⟨hp, rfl⟩
      exact ⟨c.items[p], Array.getElem?_eq_getElem hp, rfl⟩
  nodup := h.nodup
  find := h.get?_eq_find?

theorem indexed_empty : Indexed key (empty : Catalog κ α) := by
  intro k p
  simp [empty]

variable [LawfulHashable κ]

/-- Pushing an item under a key that has none keeps the index right. -/
theorem Indexed.push (h : Indexed key c) {k : κ} {a : α} (hk : c.positions[k]? = none)
    (ha : key a = k) : Indexed key (c.push k a) := by
  intro k' p
  have hnew : ∀ b ∈ c.toList, key b ≠ k := fun b hb => h.ne_of_getElem?_eq_none hk hb
  simp only [Catalog.push, Std.HashMap.getElem?_insert, Array.getElem?_push]
  -- the new key has the new place and no other; the others have not got it
  by_cases hkk : k = k'
  · subst hkk
    by_cases hp : p = c.items.size
    · simp [hp, ha]
    · simp only [beq_self_eq_true, if_true, Option.some.injEq, hp, if_false]
      refine ⟨fun h => absurd h.symm hp, fun ⟨b, hb, hbk⟩ => ?_⟩
      exact absurd hbk (hnew b (List.mem_iff_getElem?.2 ⟨p, by simpa [toList] using hb⟩))
  · simp only [beq_iff_eq, hkk, if_false, h k' p]
    by_cases hp : p = c.items.size
    · subst hp
      simp [ha, hkk]
    · simp [hp]

/-- **Putting keeps the index right.** -/
theorem Indexed.put (h : Indexed key c) {k : κ} {a : α} (ha : key a = k) :
    Indexed key (c.put k a) := by
  unfold Catalog.put
  cases hk : c.positions[k]? with
  | none => exact h.push hk ha
  | some p =>
    obtain ⟨b, hb, hbk⟩ := (h k p).1 hk
    intro k' q
    rw [h k' q]
    by_cases hq : p = q
    · subst hq
      obtain ⟨hlt, hbe⟩ := Array.getElem?_eq_some_iff.1 hb
      simp [hlt, hbe, hbk, ha]
    · simp [hq]

omit [LawfulBEq κ] [LawfulHashable κ] in
/-- A key that is not found has no place. -/
theorem Indexed.getElem?_positions_eq_none (h : Indexed key c) {k : κ} (hk : c.get? k = none) :
    c.positions[k]? = none := by
  refine Option.eq_none_iff_forall_ne_some.2 fun p hp => ?_
  obtain ⟨a, ha, -⟩ := (h k p).1 hp
  simp [get?, hp, ha] at hk

omit [LawfulBEq κ] [LawfulHashable κ] in
/-- Putting under a key that is not found is pushing. -/
theorem Indexed.put_eq_push (h : Indexed key c) {k : κ} (hk : c.get? k = none) (a : α) :
    c.put k a = c.push k a := by
  rw [Catalog.put, h.getElem?_positions_eq_none hk]

omit [LawfulHashable κ] in
/-- **Putting is placing in the list.** -/
theorem Indexed.toList_put (h : Indexed key c) {k : κ} {a : α} (ha : key a = k) :
    (c.put k a).toList = place key a c.toList := by
  unfold Catalog.put
  cases hk : c.positions[k]? with
  | none =>
    rw [place_of_new fun b hb => ha ▸ h.ne_of_getElem?_eq_none hk hb]
    simp [Catalog.push, toList]
  | some p =>
    obtain ⟨b, hb, hbk⟩ := (h k p).1 hk
    rw [place_eq_set (p := p) (b := b) (by simpa [toList] using hb) (hbk.trans ha.symm)
      fun q d hq hd => ?_]
    · simp [toList]
    · have hq' : c.items[q]? = some d := by simpa [toList] using hq
      exact Nat.le_of_eq (h.place_unique hb hq' (hbk.trans (hd.trans ha).symm))

omit [LawfulBEq κ] [LawfulHashable κ] in
/-- Indexing one more item is pushing it. -/
theorem ofArray_push (items : Array α) (b : α) :
    ofArray key (items.push b) = (ofArray key items).push (key b) b := by
  have hcount : ∀ (as : List α) (s : Std.HashMap κ Nat × Nat),
      (as.foldl (fun s a => (s.1.insert (key a) s.2, s.2 + 1)) s).2 = s.2 + as.length := by
    intro as
    induction as with
    | nil => simp
    | cons a as ih =>
      intro s
      rw [List.foldl_cons, ih, List.length_cons]
      omega
  have hsize := hcount items.toList (∅, 0)
  simp only [Array.foldl_toList, Array.length_toList, Nat.zero_add] at hsize
  simp only [ofArray, Catalog.push, Array.foldl_push, hsize]

/-- The index built for items with keys of their own is right. -/
theorem indexed_ofArray {items : Array α} (hn : (items.toList.map key).Nodup) :
    Indexed key (ofArray key items) := by
  obtain ⟨l⟩ := items
  induction l using List.reverseRecOn with
  | nil => intro k p; simp [ofArray]
  | append_singleton l b ih =>
    rw [List.map_append, List.nodup_append] at hn
    have hl := ih hn.1
    rw [show (⟨l ++ [b]⟩ : Array α) = (⟨l⟩ : Array α).push b by simp, ofArray_push]
    refine hl.push ?_ rfl
    -- the new item's key is none of those already listed
    refine Option.eq_none_iff_forall_ne_some.2 fun p hp => ?_
    obtain ⟨a, ha, hab⟩ := (hl (key b) p).1 hp
    have hmem : a ∈ l := List.mem_of_getElem? (by simpa [ofArray] using ha)
    exact hn.2.2 (key a) (List.mem_map_of_mem hmem) (key b) (by simp) hab

end Catalog

end Telemetry
