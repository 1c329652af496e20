import Telemetry.Proofs.Catalog
/-!
# Catalogs — items that come again

To take an item in is to make the entry of its key anew (`revise`), and no
entry has a say in any other. So whether some items leave a catalog as it
was is settled key by key (`Indexed.reviseAll_eq_self_iff`): items of known
keys move nothing, neither in the list nor in the index, and what stands in
a place is what the items of its key have made of it.
-/

namespace Telemetry

namespace Catalog

variable {κ α ι : Type} [BEq κ]
variable {key : α → κ} {keyOf : ι → κ} {make : ι → Option α → α}

/-! ## Lists with a key -/

section Lists

/-- What some items make an entry of was there before, if they leave it as it
was. -/
theorem isSome_of_entry_eq_self {o : Option α} {xs : List ι} (hxs : xs ≠ [])
    (h : entry make o xs = o) : o.isSome = true := by
  cases xs using List.reverseRecOn with
  | nil => exact absurd rfl hxs
  | append_singleton xs x =>
    rw [← h, entry_append]
    rfl

variable [LawfulBEq κ]

/-- **Lists of the same keys are the same** if they have the same items under
them. -/
theorem eq_of_find? {l l' : List α} (hkeys : l.map key = l'.map key) (hn : (l.map key).Nodup)
    (hfind : ∀ k, l.find? (key · == k) = l'.find? (key · == k)) : l = l' := by
  have hself : ∀ {l : List α}, (l.map key).Nodup →
      (l.map key).map (fun k => l.find? (key · == k)) = l.map some := by
    intro l hn
    rw [List.map_map]
    exact List.map_congr_left fun a ha => find?_of_mem hn ha
  have hsome : l.map some = l'.map some := by
    rw [← hself hn, ← hself (hkeys ▸ hn), hkeys]
    exact List.map_congr_left fun k _ => hfind k
  exact (List.map_inj_right fun _ _ => Option.some.inj).1 hsome

variable (hmake : ∀ x o, (∀ a ∈ o, key a = keyOf x) → key (make x o) = keyOf x)
include hmake

/-- Items of known keys list no new key. -/
theorem map_key_gather_of_mem {l : List α} {xs : List ι} (hknown : ∀ x ∈ xs, keyOf x ∈ l.map key) :
    (gather key keyOf make l xs).map key = l.map key := by
  induction xs using List.reverseRecOn with
  | nil => rfl
  | append_singleton xs x ih =>
    have hrest := ih fun y hy => hknown y (List.mem_append_left _ hy)
    have hx : key (make x ((gather key keyOf make l xs).find? (key · == keyOf x))) = keyOf x :=
      hmake x _ fun a ha => by simpa using List.find?_some ha
    rw [gather_append]
    change (place key _ _).map key = _
    rw [map_key_place, hx, hrest, if_pos (hknown x (by simp))]

omit hmake in
/-- What every item keeps of the entry it finds holds of all entries
gathered. -/
theorem forall_mem_gather {P : α → Prop} {l : List α} {xs : List ι} (hl : ∀ a ∈ l, P a)
    (hkeep : ∀ x o, (∀ a ∈ o, key a = keyOf x ∧ P a) → P (make x o)) :
    ∀ a ∈ gather key keyOf make l xs, P a := by
  induction xs using List.reverseRecOn with
  | nil => exact hl
  | append_singleton xs x ih =>
    intro a ha
    rw [gather_append] at ha
    rcases mem_of_mem_place ha with rfl | ha
    · refine hkeep x _ fun b hb => ⟨by simpa using List.find?_some hb, ?_⟩
      exact ih b (List.mem_of_find?_eq_some hb)
    · exact ih a ha

/-- **Items leave a list as it was** if they leave each entry as it was. -/
theorem gather_eq_self {l : List α} {xs : List ι} (hn : (l.map key).Nodup)
    (hentry : ∀ k, entry make (l.find? (key · == k)) (xs.filter (keyOf · == k)) =
      l.find? (key · == k)) :
    gather key keyOf make l xs = l := by
  have hknown : ∀ x ∈ xs, keyOf x ∈ l.map key := by
    intro x hx
    have hne : xs.filter (keyOf · == keyOf x) ≠ [] :=
      List.ne_nil_of_mem (List.mem_filter.2 ⟨hx, by simp⟩)
    obtain ⟨a, ha, hkey⟩ := List.find?_isSome.1 (isSome_of_entry_eq_self hne (hentry (keyOf x)))
    exact List.mem_map.2 ⟨a, ha, by simpa using hkey⟩
  refine eq_of_find? (map_key_gather_of_mem hmake hknown) (nodup_gather hn xs) fun k => ?_
  rw [find?_gather hmake, hentry]

/-- **Items that come again leave a list as it was** if under each key they
make again what they made before. -/
theorem gather_gather {l : List α} {xs : List ι} (hn : (l.map key).Nodup)
    (htwice : ∀ k, entry make (entry make (l.find? (key · == k)) (xs.filter (keyOf · == k)))
      (xs.filter (keyOf · == k)) = entry make (l.find? (key · == k)) (xs.filter (keyOf · == k))) :
    gather key keyOf make (gather key keyOf make l xs) xs = gather key keyOf make l xs := by
  refine gather_eq_self hmake (nodup_gather hn xs) fun k => ?_
  rw [find?_gather hmake, htwice]

end Lists

/-! ## Catalogs -/

variable [Hashable κ] {c : Catalog κ α}

/-- Makes the entry of an item's key anew. -/
def revise (keyOf : ι → κ) (make : ι → Option α → α) (c : Catalog κ α) (x : ι) : Catalog κ α :=
  c.put (keyOf x) (make x (c.get? (keyOf x)))

/-- Takes in items one after the other. -/
def reviseAll (keyOf : ι → κ) (make : ι → Option α → α) (c : Catalog κ α) (xs : List ι) :
    Catalog κ α :=
  xs.foldl (revise keyOf make) c

theorem reviseAll_append (c : Catalog κ α) (xs ys : List ι) :
    c.reviseAll keyOf make (xs ++ ys) = (c.reviseAll keyOf make xs).reviseAll keyOf make ys :=
  List.foldl_append

/-- A key that is found keeps its place. -/
theorem positions_put {k : κ} (h : (c.get? k).isSome = true) (a : α) :
    (c.put k a).positions = c.positions := by
  unfold get? at h
  unfold put
  cases hk : c.positions[k]? with
  | none => simp [hk] at h
  | some p => rfl

variable [LawfulBEq κ]

/-- What is found under a key has that key. -/
theorem Indexed.key_of_get? (h : Indexed key c) {k : κ} {a : α} (ha : c.get? k = some a) :
    key a = k := by
  rw [h.get?_eq_find?] at ha
  simpa using List.find?_some ha

/-- What is listed is what is found under its own key. -/
theorem Indexed.mem_toList_iff (h : Indexed key c) {a : α} :
    a ∈ c.toList ↔ c.get? (key a) = some a := by
  rw [h.get?_eq_find?]
  exact ⟨find?_of_mem h.nodup, List.mem_of_find?_eq_some⟩

variable [LawfulHashable κ]
variable (hmake : ∀ x o, (∀ a ∈ o, key a = keyOf x) → key (make x o) = keyOf x)
include hmake

/-- **To take items in is to gather them**, and the index stays right. -/
theorem Indexed.reviseAll (h : Indexed key c) (xs : List ι) :
    Indexed key (c.reviseAll keyOf make xs) ∧
      (c.reviseAll keyOf make xs).toList = gather key keyOf make c.toList xs := by
  induction xs using List.reverseRecOn with
  | nil => exact ⟨h, rfl⟩
  | append_singleton xs x ih =>
    obtain ⟨hindexed, hlist⟩ := ih
    have hkey : key (make x ((c.reviseAll keyOf make xs).get? (keyOf x))) = keyOf x :=
      hmake x _ fun a ha => hindexed.key_of_get? ha
    rw [reviseAll_append]
    refine ⟨hindexed.put hkey, (hindexed.toList_put hkey).trans ?_⟩
    rw [hindexed.get?_eq_find?, hlist, gather_append]
    rfl

/-- **What is found under a key** is what the items of the key have made of
what was found there before. -/
theorem Indexed.get?_reviseAll (h : Indexed key c) (xs : List ι) (k : κ) :
    (c.reviseAll keyOf make xs).get? k = entry make (c.get? k) (xs.filter (keyOf · == k)) := by
  obtain ⟨hindexed, hlist⟩ := h.reviseAll hmake xs
  rw [hindexed.get?_eq_find?, hlist, find?_gather hmake, ← h.get?_eq_find?]

/-- Items of known keys leave the index as it is. -/
theorem Indexed.positions_reviseAll (h : Indexed key c) {xs : List ι}
    (hknown : ∀ x ∈ xs, (c.get? (keyOf x)).isSome = true) :
    (c.reviseAll keyOf make xs).positions = c.positions := by
  induction xs using List.reverseRecOn with
  | nil => rfl
  | append_singleton xs x ih =>
    have hfound : ((c.reviseAll keyOf make xs).get? (keyOf x)).isSome = true := by
      rw [h.get?_reviseAll hmake]
      cases xs.filter (keyOf · == keyOf x) using List.reverseRecOn with
      | nil => exact hknown x (by simp)
      | append_singleton ys y =>
        rw [entry_append]
        rfl
    rw [reviseAll_append]
    exact (positions_put hfound _).trans (ih fun y hy => hknown y (List.mem_append_left _ hy))

/-- **Items leave a catalog as it was exactly when they leave each entry as
it was.** -/
theorem Indexed.reviseAll_eq_self_iff (h : Indexed key c) (xs : List ι) :
    c.reviseAll keyOf make xs = c ↔
      ∀ k, entry make (c.get? k) (xs.filter (keyOf · == k)) = c.get? k := by
  constructor
  · intro hself k
    rw [← h.get?_reviseAll hmake, hself]
  · intro hentry
    -- the list is the same key by key, and the index because all keys are known
    have hitems : (c.reviseAll keyOf make xs).items = c.items := by
      refine Array.toList_inj.1 ((h.reviseAll hmake xs).2.trans ?_)
      refine gather_eq_self hmake h.nodup fun k => ?_
      rw [← h.get?_eq_find?, hentry]
    have hpositions : (c.reviseAll keyOf make xs).positions = c.positions := by
      refine h.positions_reviseAll hmake fun x hx => ?_
      have hne : xs.filter (keyOf · == keyOf x) ≠ [] :=
        List.ne_nil_of_mem (List.mem_filter.2 ⟨hx, by simp⟩)
      exact isSome_of_entry_eq_self hne (hentry (keyOf x))
    calc c.reviseAll keyOf make xs
        = ⟨(c.reviseAll keyOf make xs).items, (c.reviseAll keyOf make xs).positions⟩ := rfl
      _ = c := by rw [hitems, hpositions]

/-- **Items that come again leave a catalog as it was** if under each key they
make again what they made before. -/
theorem Indexed.reviseAll_reviseAll (h : Indexed key c) {xs : List ι}
    (htwice : ∀ k, entry make (entry make (c.get? k) (xs.filter (keyOf · == k)))
      (xs.filter (keyOf · == k)) = entry make (c.get? k) (xs.filter (keyOf · == k))) :
    (c.reviseAll keyOf make xs).reviseAll keyOf make xs = c.reviseAll keyOf make xs := by
  refine ((h.reviseAll hmake xs).1.reviseAll_eq_self_iff hmake xs).2 fun k => ?_
  rw [h.get?_reviseAll hmake, htwice]

end Catalog

end Telemetry
