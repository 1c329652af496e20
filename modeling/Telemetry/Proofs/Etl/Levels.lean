import Mathlib.Data.List.Induction
import Telemetry.Proofs.Catalog.Revision
import Telemetry.Proofs.Etl.Record
/-!
# Etl — the three levels of the tree

What taking something in does to the records of a transformation, to the
transformations of a task and to the tasks of the tree. On each level the
index stays right (`Distinct`, `Group.Sound`, `Tree.Sound`), and the list
behind it grows by `Catalog.gather`: a record by `Record.renew`, a
transformation by `Transformation.told`, a group by `Group.told`.
-/

namespace Telemetry

namespace Etl

open Catalog

variable (cutoff : Option Time.Instant)

/-! ## Records -/

/-- The records of a transformation have numbers of their own. -/
def Transformation.Distinct (t : Transformation) : Prop :=
  (t.records.toList.map Record.id).Nodup

/-- The records after some more of them. -/
abbrev gatherRecords (records : List Record) (incoming : List Record) : List Record :=
  gather Record.id Record.id Record.renew records incoming

/-- One run is gathered if it survives. -/
theorem absorbRun_spec {c : Catalog Int Record} (hc : c.Indexed Record.id) (d : Destination)
    (task name : String) (s : Stats) :
    (absorbRun cutoff d task name c s).tree.Indexed Record.id ∧
      (absorbRun cutoff d task name c s).tree.toList =
        gatherRecords c.toList (Record.kept? cutoff d s).toList := by
  unfold absorbRun Record.kept?
  cases hd : Record.derive s d with
  | error refusal => exact ⟨hc, rfl⟩
  | ok r =>
    have hid : r.id = s.id := by rw [Record.id, (Record.of_derive hd).1]
    by_cases hp : r.startedAt.past cutoff
    · simp only [if_pos hp]
      change _ ∧ _ =
        place Record.id (Record.renew r (c.toList.find? (Record.id · == r.id))) c.toList
      rw [hid, ← hc.get?_eq_find?]
      cases hg : c.get? s.id with
      | none =>
        rw [← hc.put_eq_push hg]
        exact ⟨hc.put hid, hc.toList_put hid⟩
      | some held =>
        have hfind := hc.get?_eq_find? s.id
        rw [hg] at hfind
        have hheld : held.id = s.id := by simpa using List.find?_some hfind.symm
        have hstats : r.stats = s := (Record.of_derive hd).1
        simp only [Record.renew, hstats]
        split
        · -- an equal run is not put, which placing the record held comes to
          exact ⟨hc, (place_self (by rw [hheld]; exact hfind.symm)).symm⟩
        · exact ⟨hc.put hid, hc.toList_put hid⟩
    · simp only [if_neg hp]
      exact ⟨hc, rfl⟩

/-- Runs are gathered as far as they survive. -/
theorem foldl_absorbRun_spec {c : Catalog Int Record} (hc : c.Indexed Record.id)
    (d : Destination) (task name : String) (runs : List Stats) :
    (Ingestion.each (absorbRun cutoff d task name) c runs).tree.Indexed Record.id ∧
      (Ingestion.each (absorbRun cutoff d task name) c runs).tree.toList =
        gatherRecords c.toList (runs.filterMap (Record.kept? cutoff d)) := by
  rw [Ingestion.tree_each]
  induction runs generalizing c with
  | nil => exact ⟨hc, rfl⟩
  | cons s runs ih =>
    obtain ⟨hs, hlist⟩ := absorbRun_spec cutoff hc d task name s
    obtain ⟨hr, hrest⟩ := ih hs
    refine ⟨hr, hrest.trans ?_⟩
    rw [hlist, gatherRecords, ← gather_append]
    congr 1
    cases h : Record.kept? cutoff d s <;> simp [h]

/-- **Runs come into a transformation**: its name stays, and its records
gather those that survive. -/
theorem Transformation.absorb_spec {t : Transformation} (ht : t.Distinct) (d : Destination)
    (task : String) (runs : List Stats) :
    (t.absorb cutoff d task runs).tree.name = t.name ∧
      (t.absorb cutoff d task runs).tree.Distinct ∧
      (t.absorb cutoff d task runs).tree.records.toList =
        gatherRecords t.records.toList (runs.filterMap (Record.kept? cutoff d)) := by
  obtain ⟨hi, hlist⟩ := foldl_absorbRun_spec cutoff (indexed_ofArray ht) d task t.name runs
  exact ⟨rfl, hi.nodup, hlist⟩

/-! ## Transformations -/

/-- The transformations a task tells of, each with the task. -/
def Task.entries (t : Task) : List (Task × Process) := t.processes.map (t, ·)

/-- A transformation after an entry about it has come; a new one has no
records before. -/
def Transformation.told (e : Task × Process)
    (o : Option Transformation) : Transformation :=
  ((o.getD ⟨e.2.transformation, #[]⟩).absorb cutoff (Destination.derive e.1.kind e.1.subKind)
    e.1.name e.2.runs).tree

/-- The transformations of a group after some more entries. -/
abbrev gatherEntries (ts : List Transformation)
    (entries : List (Task × Process)) : List Transformation :=
  gather Transformation.name (fun e => e.2.transformation) (Transformation.told cutoff) ts entries

/-- The same with the index of the group. -/
abbrev reviseEntries (c : Catalog String Transformation) (entries : List (Task × Process)) :
    Catalog String Transformation :=
  c.reviseAll (fun e => e.2.transformation) (Transformation.told cutoff) entries

/-- The index of a group and the numbers of its records are right. -/
structure Group.Sound (g : Group) : Prop where
  indexed : g.transformations.Indexed Transformation.name
  distinct : ∀ t ∈ g.transformations.toList, t.Distinct

theorem distinct_blank (name : String) : (⟨name, #[]⟩ : Transformation).Distinct := by
  simp [Transformation.Distinct]

/-- What is told of a transformation keeps its name. -/
theorem Transformation.name_told {e : Task × Process} {o : Option Transformation}
    (hn : ∀ t ∈ o, t.name = e.2.transformation) :
    (Transformation.told cutoff e o).name = e.2.transformation := by
  cases o with
  | none => rfl
  | some t => exact hn t rfl

/-- And it keeps the numbers of its records apart. -/
theorem Transformation.distinct_told {e : Task × Process} {o : Option Transformation}
    (hd : ∀ t ∈ o, t.Distinct) : (Transformation.told cutoff e o).Distinct := by
  cases o with
  | none => exact (absorb_spec cutoff (distinct_blank _) _ _ _).2.1
  | some t => exact (absorb_spec cutoff (hd t rfl) _ _ _).2.1

/-- **A process of a task comes into its group** as an entry. -/
theorem Group.tree_absorb {g : Group} {t : Task} (hk : g.key = t.key) (p : Process) :
    (g.absorb cutoff (Destination.derive t.kind t.subKind) p).tree =
      { g with transformations := reviseEntries cutoff g.transformations [(t, p)] } := by
  have hname : g.key.name = t.name := by rw [hk]; rfl
  change _ = Group.mk g.key g.taskId (g.transformations.put p.transformation
    (Transformation.told cutoff (t, p) (g.transformations.get? p.transformation)))
  unfold Group.absorb Transformation.told
  cases g.transformations.get? p.transformation with
  | none => rw [hname]; rfl
  | some t' => rw [hname]; rfl

/-- **A task comes into its group**: its processes come as entries, and
nothing else about the group changes. -/
theorem Group.tree_each_absorb {g : Group} {t : Task} (hk : g.key = t.key) (ps : List Process) :
    (Ingestion.each (Group.absorb cutoff (Destination.derive t.kind t.subKind)) g ps).tree =
      { g with transformations := reviseEntries cutoff g.transformations (ps.map (t, ·)) } := by
  rw [Ingestion.tree_each]
  induction ps generalizing g with
  | nil => rfl
  | cons p ps ih =>
    rw [List.foldl_cons, Group.tree_absorb cutoff hk]
    exact ih hk

/-- **Entries leave a group sound**, and are gathered. -/
theorem Group.Sound.reviseEntries {g : Group} (hg : g.Sound) (entries : List (Task × Process)) :
    Group.Sound { g with transformations := Etl.reviseEntries cutoff g.transformations entries } ∧
      (Etl.reviseEntries cutoff g.transformations entries).toList =
        gatherEntries cutoff g.transformations.toList entries := by
  obtain ⟨hindexed, hlist⟩ :=
    hg.indexed.reviseAll (fun e o => Transformation.name_told cutoff) entries
  refine ⟨⟨hindexed, ?_⟩, hlist⟩
  rw [hlist]
  exact forall_mem_gather hg.distinct fun e o ho =>
    Transformation.distinct_told cutoff fun t' ht' => (ho t' ht').2

/-! ## Tasks -/

/-- A group after a task of it has come; a new one has no transformations
before. -/
def Group.told (t : Task) (o : Option Group) : Group :=
  (Ingestion.each (Group.absorb cutoff (Destination.derive t.kind t.subKind))
    (o.getD ⟨t.key, t.id, .empty⟩) t.processes).tree

/-- The groups of the tree after some more tasks. -/
abbrev gatherTasks (gs : List Group) (tasks : List Task) :
    List Group :=
  gather Group.key Task.key (Group.told cutoff) gs tasks

/-- The same with the index of the tree. -/
abbrev reviseTasks (c : Catalog TaskKey Group) (tasks : List Task) : Catalog TaskKey Group :=
  c.reviseAll Task.key (Group.told cutoff) tasks

/-- All indexes of a tree are right. -/
structure Tree.Sound (tree : Tree) : Prop where
  indexed : tree.groups.Indexed Group.key
  sound : ∀ g ∈ tree.groups.toList, g.Sound

/-- What is found in a sound group has the name it is found under, and numbers
of its own. -/
theorem Group.Sound.of_get? {g : Group} (h : g.Sound) {name : String} {t : Transformation}
    (ht : g.transformations.get? name = some t) : t.name = name ∧ t.Distinct := by
  rw [h.indexed.get?_eq_find?] at ht
  exact ⟨by simpa using List.find?_some ht, h.distinct t (List.mem_of_find?_eq_some ht)⟩

/-- What is found in a sound tree has the key it is found under, and is
sound. -/
theorem Tree.Sound.of_get? {tree : Tree} (h : tree.Sound) {k : TaskKey} {g : Group}
    (hg : tree.groups.get? k = some g) : g.key = k ∧ g.Sound := by
  rw [h.indexed.get?_eq_find?] at hg
  exact ⟨by simpa using List.find?_some hg, h.sound g (List.mem_of_find?_eq_some hg)⟩

theorem Group.sound_blank (k : TaskKey) (id : Int) : (⟨k, id, .empty⟩ : Group).Sound :=
  ⟨indexed_empty, fun t ht => by simp [Catalog.empty, Catalog.toList] at ht⟩

theorem Tree.sound_empty : Tree.empty.Sound :=
  ⟨indexed_empty, fun g hg => by simp [Tree.empty, Catalog.empty, Catalog.toList] at hg⟩

/-- **What is told of a task to its group**: the entries of the task. -/
theorem Group.told_eq {t : Task} {o : Option Group} (hk : ∀ g ∈ o, g.key = t.key) :
    Group.told cutoff t o =
      let g := o.getD ⟨t.key, t.id, .empty⟩
      { g with transformations := reviseEntries cutoff g.transformations t.entries } := by
  refine Group.tree_each_absorb cutoff ?_ t.processes
  cases o with
  | none => rfl
  | some g => exact hk g rfl

/-- A group told of its task keeps its key. -/
theorem Group.key_told {t : Task} {o : Option Group} (hk : ∀ g ∈ o, g.key = t.key) :
    (Group.told cutoff t o).key = t.key := by
  rw [Group.told_eq cutoff hk]
  cases o with
  | none => rfl
  | some g => exact hk g rfl

/-- And it stays sound. -/
theorem Group.sound_told {t : Task} {o : Option Group} (hk : ∀ g ∈ o, g.key = t.key)
    (hs : ∀ g ∈ o, g.Sound) : (Group.told cutoff t o).Sound := by
  rw [Group.told_eq cutoff hk]
  cases o with
  | none => exact ((Group.sound_blank t.key t.id).reviseEntries cutoff t.entries).1
  | some g => exact ((hs g rfl).reviseEntries cutoff t.entries).1

/-- **Tasks leave a tree sound**, and are gathered. -/
theorem Tree.Sound.reviseTasks {tree : Tree} (h : tree.Sound) (tasks : List Task) :
    (⟨Etl.reviseTasks cutoff tree.groups tasks⟩ : Tree).Sound ∧
      (Etl.reviseTasks cutoff tree.groups tasks).toList =
        gatherTasks cutoff tree.groups.toList tasks := by
  obtain ⟨hindexed, hlist⟩ := h.indexed.reviseAll (fun t o => Group.key_told cutoff) tasks
  refine ⟨⟨hindexed, ?_⟩, hlist⟩
  rw [hlist]
  exact forall_mem_gather h.sound fun t o ho =>
    Group.sound_told cutoff (fun g hg => (ho g hg).1) fun g hg => (ho g hg).2

/-- **A task comes into the tree** as an entry. -/
theorem Tree.tree_absorb_eq (tree : Tree) (t : Task) :
    (tree.absorb cutoff t).tree = ⟨reviseTasks cutoff tree.groups [t]⟩ := by
  change _ = Tree.mk (tree.groups.put t.key (Group.told cutoff t (tree.groups.get? t.key)))
  unfold Tree.absorb Group.told
  cases tree.groups.get? t.key <;> rfl

/-- **Batches come into the tree** as the entries of all their tasks. -/
theorem Tree.replay_eq (tree : Tree) (batches : List (List Task)) :
    (merge cutoff).replay tree batches = ⟨reviseTasks cutoff tree.groups batches.flatten⟩ := by
  rw [Merge.replay_eq_foldl (m := merge cutoff) rfl]
  induction batches.flatten generalizing tree with
  | nil => rfl
  | cons t tasks ih =>
    rw [List.foldl_cons, ih, Tree.tree_absorb_eq]
    rfl

/-- Batches leave a tree sound. -/
theorem Tree.Sound.replay {tree : Tree} (h : tree.Sound) (batches : List (List Task)) :
    ((merge cutoff).replay tree batches).Sound := by
  rw [Tree.replay_eq]
  exact (h.reviseTasks cutoff batches.flatten).1

/-- **After any batches the indexes are right, and the groups have
gathered all tasks.** -/
theorem Tree.replay_spec (batches : List (List Task)) :
    ((merge cutoff).replay (merge cutoff).initial batches).Sound ∧
      ((merge cutoff).replay (merge cutoff).initial batches).groups.toList =
        gatherTasks cutoff [] batches.flatten := by
  rw [Tree.replay_eq]
  exact Tree.sound_empty.reviseTasks cutoff batches.flatten

end Etl

end Telemetry
