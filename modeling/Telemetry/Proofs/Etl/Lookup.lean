import Telemetry.Proofs.Etl.Reference
/-!
# Etl — looking a record up

A record is found under the key of its task, the name of its transformation
and its number. What is found there after some batches is what the surviving
runs of that number have made of what was found there before
(`Tree.Sound.record?_replay`): nothing else in the batches has a say in it.
-/

namespace Telemetry

namespace Etl

open Catalog

variable (cutoff : Option Time.Instant)

/-! ## Where a record is found -/

/-- The record of a number. -/
def Transformation.record? (t : Transformation) (id : Int) : Option Record :=
  t.records.toList.find? (·.id == id)

/-- The record of a number in a transformation of a group. -/
def Group.record? (g : Group) (name : String) (id : Int) : Option Record :=
  (g.transformation? name).bind (·.record? id)

/-- **The record of a number** in a transformation of a task. -/
def Tree.record? (tree : Tree) (k : TaskKey) (name : String) (id : Int) : Option Record :=
  (tree.group? k).bind (·.record? name id)

/-- **What is listed is found**, under its own key, name and number. -/
theorem Tree.Sound.record?_of_mem {tree : Tree} (h : tree.Sound) {g : Group}
    (hg : g ∈ tree.groups.toList) {t : Transformation} (ht : t ∈ g.transformations.toList)
    {r : Record} (hr : r ∈ t.records.toList) : tree.record? g.key t.name r.id = some r := by
  have hgroup : tree.group? g.key = some g := h.indexed.mem_toList_iff.1 hg
  have hsound : g.Sound := h.sound g hg
  have htransformation : g.transformation? t.name = some t :=
    hsound.indexed.mem_toList_iff.1 ht
  have hrecord : t.record? r.id = some r := find?_of_mem (hsound.distinct t ht) hr
  rw [Tree.record?, hgroup, Option.bind_some, Group.record?, htransformation, Option.bind_some,
    hrecord]

/-- What is found has the number it is found under. -/
theorem Tree.id_of_record? {tree : Tree} {k : TaskKey} {name : String} {id : Int} {r : Record}
    (h : tree.record? k name id = some r) : r.id = id := by
  obtain ⟨g, -, hg⟩ := Option.bind_eq_some_iff.1 h
  obtain ⟨t, -, ht⟩ := Option.bind_eq_some_iff.1 hg
  simpa using List.find?_some ht

/-! ## The versions of a record -/

/-- Where a task sends its data. -/
abbrev Task.destination (t : Task) : Destination := Destination.derive t.kind t.subKind

/-- The record an occurrence of a run leaves. -/
def recordOf? (x : Task × Stats) : Option Record := Record.kept? cutoff x.1.destination x.2

/-- **The occurrences of one number** that survive, in the order told. -/
def resends (cutoff : Option Time.Instant) (tasks : List Task) (k : TaskKey) (name : String)
    (id : Int) : List (Task × Stats) :=
  (survivors cutoff tasks k name).filter (·.2.id == id)

/-- The records they leave. -/
def versions (cutoff : Option Time.Instant) (tasks : List Task) (k : TaskKey) (name : String)
    (id : Int) : List Record :=
  (resends cutoff tasks k name id).filterMap (recordOf? cutoff)

variable {cutoff}

theorem isSome_recordOf? (x : Task × Stats) :
    (recordOf? cutoff x).isSome = x.2.survives cutoff :=
  Record.isSome_kept? cutoff _ _

theorem derive_of_recordOf? {x : Task × Stats} {r : Record} (h : recordOf? cutoff x = some r) :
    Record.derive x.2 x.1.destination = .ok r :=
  Record.derive_of_kept? h

theorem stats_of_recordOf? {x : Task × Stats} {r : Record} (h : recordOf? cutoff x = some r) :
    r.stats = x.2 :=
  (Record.of_derive (derive_of_recordOf? h)).1

/-- An occurrence among the survivors leaves a record. -/
theorem exists_recordOf? {tasks : List Task} {k : TaskKey} {name : String} {id : Int}
    {x : Task × Stats} (hx : x ∈ resends cutoff tasks k name id) :
    ∃ r, recordOf? cutoff x = some r := by
  have hsurvives : x.2.survives cutoff = true :=
    (List.mem_filter.1 (List.mem_filter.1 hx).1).2
  exact Option.isSome_iff_exists.1 ((isSome_recordOf? x).trans hsurvives)

variable (cutoff)

/-- **The records kept of one number** are its versions. -/
theorem filter_keptOf (tasks : List Task) (k : TaskKey) (name : String) (id : Int) :
    (keptOf cutoff ((entriesOf tasks k).filter (·.2.transformation == name))).filter (·.id == id) =
      versions cutoff tasks k name id := by
  have hkept : keptOf cutoff ((entriesOf tasks k).filter (·.2.transformation == name)) =
      (occurrences tasks k name).filterMap (recordOf? cutoff) := by
    rw [occurrences, List.filterMap_flatMap]
    simp only [List.filterMap_map]
    rfl
  rw [hkept, versions, resends, survivors]
  induction occurrences tasks k name with
  | nil => rfl
  | cons x rest ih =>
    have hx : (recordOf? cutoff x).isSome = x.2.survives cutoff := isSome_recordOf? x
    cases hrecord : recordOf? cutoff x with
    | none =>
      have hdropped : x.2.survives cutoff = false := by rw [← hx, hrecord]; rfl
      simp only [List.filterMap_cons_none hrecord, List.filter_cons, hdropped, ih]
      rfl
    | some r =>
      have hsurvives : x.2.survives cutoff = true := by rw [← hx, hrecord]; rfl
      have hid : r.id = x.2.id := congrArg Stats.id (stats_of_recordOf? hrecord)
      simp only [List.filterMap_cons_some hrecord, List.filter_cons, hsurvives, hid, if_true]
      by_cases hnumber : x.2.id = id
      · simp [hnumber, hrecord, ih]
      · simp [hnumber, ih]

/-! ## What is found after some batches -/

/-- What is found of a number after more entries of its transformation. -/
theorem Transformation.record?_entry_told {t t' : Transformation} (ht : t.Distinct)
    {entries : List (Task × Process)}
    (h : entry (Transformation.told cutoff) (some t) entries = some t') (id : Int) :
    t'.record? id =
      entry Record.renew (t.record? id) ((keptOf cutoff entries).filter (·.id == id)) := by
  obtain ⟨t'', ht'', -, -, hlist⟩ := Transformation.entry_told cutoff ht entries
  obtain rfl := Option.some.inj (h.symm.trans ht'')
  rw [Transformation.record?, hlist]
  exact find?_gather (fun r o => Record.id_renew) _ _ id

/-- What is found of a number after more entries of its group. -/
theorem Group.Sound.record?_reviseEntries {g : Group} (h : g.Sound)
    (entries : List (Task × Process)) (name : String) (id : Int) :
    Group.record? { g with transformations := Etl.reviseEntries cutoff g.transformations entries }
        name id =
      entry Record.renew (g.record? name id)
        ((keptOf cutoff (entries.filter (·.2.transformation == name))).filter (·.id == id)) := by
  have hget : (Etl.reviseEntries cutoff g.transformations entries).get? name =
      entry (Transformation.told cutoff) (g.transformations.get? name)
        (entries.filter (·.2.transformation == name)) :=
    h.indexed.get?_reviseAll (fun e o => Transformation.name_told cutoff) entries name
  rw [Group.record?, Group.record?, Group.transformation?, Group.transformation?, hget]
  by_cases hne : entries.filter (·.2.transformation == name) = []
  · rw [hne]
    rfl
  · cases hfound : g.transformations.get? name with
    | some t =>
      obtain ⟨t', ht', -⟩ := Transformation.entry_told cutoff (h.of_get? hfound).2
        (entries.filter (·.2.transformation == name))
      rw [ht']
      exact Transformation.record?_entry_told cutoff (h.of_get? hfound).2 ht' id
    | none =>
      -- the first entry makes the transformation out of one without records
      cases hentries : entries.filter (·.2.transformation == name) with
      | nil => exact absurd hentries hne
      | cons e rest =>
        obtain ⟨t', ht', -⟩ := Transformation.entry_told cutoff
          (distinct_blank e.2.transformation) (e :: rest)
        have hstart : entry (Transformation.told cutoff) none (e :: rest) = some t' := ht'
        rw [hstart]
        exact Transformation.record?_entry_told cutoff (distinct_blank _) ht' id

/-- **What is found after some batches** is what the versions among them have
made of what was found before. -/
theorem Tree.Sound.record?_replay {tree : Tree} (h : tree.Sound) (batches : List (List Task))
    (k : TaskKey) (name : String) (id : Int) :
    ((merge cutoff).replay tree batches).record? k name id =
      entry Record.renew (tree.record? k name id)
        (versions cutoff batches.flatten k name id) := by
  have hget : (Etl.reviseTasks cutoff tree.groups batches.flatten).get? k =
      entry (Group.told cutoff) (tree.groups.get? k) (batches.flatten.filter (·.key == k)) :=
    h.indexed.get?_reviseAll (fun t o => Group.key_told cutoff) batches.flatten k
  have hkeys : ∀ t ∈ batches.flatten.filter (·.key == k), t.key = k := fun t ht => by
    simpa using (List.mem_filter.1 ht).2
  rw [← filter_keptOf, entriesOf, Tree.replay_eq, Tree.record?, Tree.record?, Tree.group?,
    Tree.group?, hget]
  by_cases hne : batches.flatten.filter (·.key == k) = []
  · rw [hne]
    rfl
  · cases hfound : tree.groups.get? k with
    | some g =>
      obtain ⟨hg, hsound⟩ := h.of_get? hfound
      rw [Group.entry_told cutoff fun t ht => hg.trans (hkeys t ht).symm]
      exact hsound.record?_reviseEntries cutoff _ name id
    | none =>
      -- the first task makes the group out of one without transformations
      cases htasks : batches.flatten.filter (·.key == k) with
      | nil => exact absurd htasks hne
      | cons t rest =>
        rw [htasks] at hkeys
        have hfirst : ∀ t' ∈ t :: rest, t.key = t'.key := fun t' ht' =>
          (hkeys t List.mem_cons_self).trans (hkeys t' ht').symm
        have hstart : entry (Group.told cutoff) none (t :: rest) =
            some ⟨t.key, t.id,
              Etl.reviseEntries cutoff .empty ((t :: rest).flatMap Task.entries)⟩ :=
          Group.entry_told cutoff (g := ⟨t.key, t.id, .empty⟩) hfirst
        have hblank : Group.record? ⟨t.key, t.id, .empty⟩ name id = none := by
          rw [Group.record?, Group.transformation?, get?_empty]
          rfl
        have hentries := (Group.sound_blank t.key t.id).record?_reviseEntries cutoff
          ((t :: rest).flatMap Task.entries) name id
        rw [hblank] at hentries
        rw [hstart]
        exact hentries

/-- After some batches from the beginning, the versions are all there is to
say. -/
theorem Tree.record?_replay_initial (batches : List (List Task)) (k : TaskKey) (name : String)
    (id : Int) :
    ((merge cutoff).replay (merge cutoff).initial batches).record? k name id =
      entry Record.renew none (versions cutoff batches.flatten k name id) := by
  have hnone : (merge cutoff).initial.record? k name id = none := by
    rw [Tree.record?, Tree.group?, merge, Tree.empty, get?_empty]
    rfl
  rw [← hnone]
  exact Tree.sound_empty.record?_replay cutoff batches k name id

end Etl

end Telemetry
