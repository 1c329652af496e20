import Mathlib.Data.List.Nodup
import Telemetry.Proofs.Etl.Levels
/-!
# Etl — how the tree is kept

Three indexes stand beside the lists of the tree: that of the groups, that
of the transformations of each group, and, for as long as runs are taken
into a transformation, that of its records. Each is exact at every moment it
is asked (`Catalog.Exact`): between two batches, between two tasks of a
batch, between two processes of a task and between two runs of a process.
So no place they name is out of bounds, and what they find is what a search
would find.

The rows are the records of the tree, each once, by their places.
-/

namespace Telemetry

/-! ## Places in order -/

section Places

variable {α β γ κ π : Type}

/-- **A list enumerates what is found at some places** if it has all of it,
in the order of the places. -/
def Enumerates (before : π → π → Prop) (at? : π → Option β) (l : List β) : Prop :=
  ∃ places : List π, places.Pairwise before ∧ places.map at? = l.map some ∧
    ∀ p, (at? p).isSome → p ∈ places

/-- A list enumerates itself. -/
theorem enumerates_getElem? (l : List β) : Enumerates (· < ·) (fun i : Nat => l[i]?) l := by
  refine ⟨List.range l.length, List.pairwise_lt_range, ?_, fun i hi => ?_⟩
  · refine List.ext_getElem? fun i => ?_
    by_cases hi : i < l.length <;> simp [hi]
  · simpa using hi

/-- **Lists put one after the other** enumerate what they did, by the list
and by the place in it. -/
theorem Enumerates.flatMap {before : π → π → Prop} {f : α → List β} {l : List α}
    (at? : α → π → Option β) (h : ∀ a ∈ l, Enumerates before (at? a) (f a)) :
    Enumerates (Prod.Lex (· < ·) before) (fun p : Nat × π => (l[p.1]?).bind (at? · p.2))
      (l.flatMap f) := by
  induction l with
  | nil => exact ⟨[], by simp, rfl, by simp⟩
  | cons a l ih =>
    obtain ⟨first, hfirst, hmap, hall⟩ := h a List.mem_cons_self
    obtain ⟨others, hothers, hmap', hall'⟩ := ih fun b hb => h b (List.mem_cons_of_mem _ hb)
    refine ⟨first.map (0, ·) ++ others.map fun p => (p.1 + 1, p.2), ?_, ?_, ?_⟩
    · -- the first list comes before the others, whatever the places in them
      refine List.pairwise_append.2 ⟨?_, ?_, ?_⟩
      · exact List.pairwise_map.2 (hfirst.imp fun hpq => Prod.Lex.right _ hpq)
      · refine List.pairwise_map.2 (hothers.imp fun hpq => ?_)
        cases hpq with
        | left _ _ hlt => exact Prod.Lex.left _ _ (Nat.succ_lt_succ hlt)
        | right _ hbefore => exact Prod.Lex.right _ hbefore
      · intro p hp q hq
        obtain ⟨p', -, rfl⟩ := List.mem_map.1 hp
        obtain ⟨q', -, rfl⟩ := List.mem_map.1 hq
        exact Prod.Lex.left _ _ (Nat.succ_pos _)
    · rw [List.flatMap_cons, List.map_append, List.map_append, ← hmap, ← hmap']
      simp [Function.comp_def]
    · rintro ⟨i, p⟩ hp
      cases i with
      | zero => exact List.mem_append_left _ (List.mem_map_of_mem (hall p (by simpa using hp)))
      | succ i =>
        refine List.mem_append_right _ (List.mem_map.2 ⟨(i, p), hall' (i, p) ?_, rfl⟩)
        simpa using hp

/-- Entries under keys of their own, each distinct from the others under its
key, are distinct with their keys. -/
theorem nodup_flatMap_key {key : α → κ} {f : α → List γ} {l : List α}
    (hkeys : (l.map key).Nodup) (hf : ∀ a ∈ l, (f a).Nodup) :
    (l.flatMap fun a => (f a).map (key a, ·)).Nodup := by
  refine List.nodup_flatMap.2 ⟨fun a ha => ?_, ?_⟩
  · exact (hf a ha).map fun x y hxy => (Prod.mk.inj hxy).2
  · refine (List.pairwise_map.1 hkeys).imp fun hab x hx hy => ?_
    obtain ⟨c, -, rfl⟩ := List.mem_map.1 hx
    obtain ⟨d, -, hd⟩ := List.mem_map.1 hy
    exact hab (Prod.mk.inj hd).1.symm

end Places

namespace Etl

open Catalog

variable {cutoff : Option Time.Instant} {tree : Tree}

/-! ## Rows -/

/-- The row at a place of a transformation. -/
def Transformation.row? (k : TaskKey) (t : Transformation) (i : Nat) : Option Row :=
  t.records.toList[i]?.map fun r => ⟨k, t.name, r⟩

/-- The row at a place of a group: that of a transformation, and one in it. -/
def Group.row? (g : Group) (p : Nat × Nat) : Option Row :=
  (g.transformations.toList[p.1]?).bind (Transformation.row? g.key · p.2)

/-- The row at a place of the tree: that of a group, and one in it. -/
def Tree.row? (tree : Tree) (p : Nat × Nat × Nat) : Option Row :=
  (tree.groups.toList[p.1]?).bind (Group.row? · p.2)

/-- **The rows are those of all places, in order**: by the group first, then
by the transformation, then by the record. -/
theorem Tree.enumerates_rows (tree : Tree) :
    Enumerates (Prod.Lex (· < ·) (Prod.Lex (· < ·) (· < ·))) tree.row? tree.rows := by
  refine Enumerates.flatMap Group.row? fun g _ => ?_
  refine Enumerates.flatMap (Transformation.row? g.key) fun t _ => ?_
  have hrecords := enumerates_getElem? (t.records.toList.map fun r => Row.mk g.key t.name r)
  simp only [List.getElem?_map] at hrecords
  exact hrecords

/-- **No two rows** are of one number in one transformation of one task. -/
theorem Tree.Sound.nodup_rows (h : tree.Sound) :
    (tree.rows.map fun r => (r.task, r.transformation, r.record.id)).Nodup := by
  have hrows : (tree.rows.map fun r => (r.task, r.transformation, r.record.id)) =
      tree.groups.toList.flatMap fun g =>
        (g.transformations.toList.flatMap fun t =>
          (t.records.toList.map Record.id).map (t.name, ·)).map (g.key, ·) := by
    simp [Tree.rows, List.map_flatMap, Function.comp_def]
  rw [hrows]
  refine nodup_flatMap_key h.indexed.nodup fun g hg => ?_
  exact nodup_flatMap_key (h.sound g hg).indexed.nodup (h.sound g hg).distinct

/-- **There are as many rows as records.** -/
theorem Tree.length_rows (tree : Tree) : tree.rows.length = tree.recordCount := by
  have hcount : ∀ (ts : List Transformation) (n : Nat),
      ts.foldl (fun n t => n + t.records.size) n = n + (ts.map fun t => t.records.size).sum := by
    intro ts
    induction ts with
    | nil => simp
    | cons t ts ih =>
      intro n
      rw [List.foldl_cons, ih, List.map_cons, List.sum_cons, Nat.add_assoc]
  rw [Tree.recordCount, hcount, Nat.zero_add]
  simp only [Tree.rows, List.length_flatMap, List.length_map, Array.length_toList,
    List.map_flatMap]
  rw [List.flatMap_def, List.sum_flatten, List.map_map]
  rfl

/-! ## In the midst of a task -/

/-- The group of a task when some of its processes have been taken in. -/
def Tree.groupAfter (cutoff : Option Time.Instant) (tree : Tree) (t : Task)
    (processes : List Process) : Group :=
  (Ingestion.each (Group.absorb cutoff (Destination.derive t.kind t.subKind))
    ((tree.groups.get? t.key).getD ⟨t.key, t.id, .empty⟩) processes).tree

/-- The records of a transformation, with their index, when some runs of a
process have been taken in. -/
def Group.recordsAfter (cutoff : Option Time.Instant) (d : Destination) (g : Group) (p : Process)
    (runs : List Stats) : Catalog Int Record :=
  let t := (g.transformations.get? p.transformation).getD ⟨p.transformation, #[]⟩
  (Ingestion.each (absorbRun cutoff d g.key.name t.name) (.ofArray Record.id t.records) runs).tree

/-- **A task comes into the tree** as the group that its processes leave. -/
theorem Tree.tree_absorb (tree : Tree) (t : Task) :
    (tree.absorb cutoff t).tree =
      ⟨tree.groups.put t.key (tree.groupAfter cutoff t t.processes)⟩ := by
  unfold Tree.absorb Tree.groupAfter
  cases tree.groups.get? t.key <;> rfl

/-- **A process comes into a group** as the records that its runs leave. -/
theorem Tree.groupAfter_snoc (tree : Tree) (t : Task) (ps : List Process) (p : Process) :
    let g := tree.groupAfter cutoff t ps
    let records := g.recordsAfter cutoff (Destination.derive t.kind t.subKind) p p.runs
    let name := ((g.transformations.get? p.transformation).getD ⟨p.transformation, #[]⟩).name
    tree.groupAfter cutoff t (ps ++ [p]) =
      { g with transformations :=
          g.transformations.put p.transformation ⟨name, records.items⟩ } := by
  intro g records name
  have hsnoc : tree.groupAfter cutoff t (ps ++ [p]) =
      (g.absorb cutoff (Destination.derive t.kind t.subKind) p).tree := by
    simp [g, Tree.groupAfter, Ingestion.tree_each]
  rw [hsnoc, Group.absorb]
  simp only [records, name, Group.recordsAfter]
  cases g.transformations.get? p.transformation <;> rfl

/-- In the midst of a task its group is sound. -/
theorem Tree.Sound.groupAfter (h : tree.Sound) (t : Task) (ps : List Process) :
    (tree.groupAfter cutoff t ps).Sound :=
  Group.sound_told cutoff (t := { t with processes := ps }) (o := tree.groups.get? t.key)
    (fun _ hg => (h.of_get? hg).1) fun _ hg => (h.of_get? hg).2

/-- In the midst of a process the index of the records is right. -/
theorem Group.Sound.recordsAfter {g : Group} (h : g.Sound) (d : Destination) (p : Process)
    (runs : List Stats) : (g.recordsAfter cutoff d p runs).Indexed Record.id := by
  have hdistinct : ((g.transformations.get? p.transformation).getD
      ⟨p.transformation, #[]⟩).Distinct := by
    cases ht : g.transformations.get? p.transformation with
    | none => exact distinct_blank p.transformation
    | some t => exact (h.of_get? ht).2
  exact (foldl_absorbRun_spec cutoff (indexed_ofArray hdistinct) d _ _ runs).1

/-- In the midst of a batch the tree is sound. -/
theorem Tree.Sound.next (h : tree.Sound) (tasks : List Task) :
    ((merge cutoff).next tree tasks).Sound :=
  h.replay cutoff [tasks]

/-! ## The tree -/

/-- **A tree is well kept** if its indexes are exact, now and all through the
next batch, and its rows are its records, each once. In the midst of a batch
the tree is as after a batch that ends there, so it is enough to follow one
task from its first process to its last. -/
structure Tree.WellKept (cutoff : Option Time.Instant) (tree : Tree) : Prop where
  /-- The index of the groups is exact, -/
  groups : tree.groups.Exact Group.key
  /-- and so is that of the transformations of each group. -/
  transformations : ∀ g ∈ tree.groups.toList, g.transformations.Exact Transformation.name
  /-- The records of a transformation have numbers of their own. -/
  records : ∀ g ∈ tree.groups.toList, ∀ t ∈ g.transformations.toList, t.Distinct
  /-- A group is found where a search finds it, -/
  group : ∀ k, tree.group? k = tree.groups.toList.find? (·.key == k)
  /-- and so is a transformation. -/
  transformation : ∀ g ∈ tree.groups.toList, ∀ name,
    g.transformation? name = g.transformations.toList.find? (·.name == name)
  /-- The rows are distinct, -/
  distinct : (tree.rows.map fun r => (r.task, r.transformation, r.record.id)).Nodup
  /-- stand in the order of their places, -/
  ordered : Enumerates (Prod.Lex (· < ·) (Prod.Lex (· < ·) (· < ·))) tree.row? tree.rows
  /-- and are as many as the records. -/
  count : tree.rows.length = tree.recordCount
  /-- After any tasks of the next batch the index of the groups is exact, -/
  afterTasks : ∀ tasks, ((merge cutoff).next tree tasks).groups.Exact Group.key
  /-- after any processes of the next task that of its transformations, -/
  afterProcesses : ∀ t ps, (tree.groupAfter cutoff t ps).transformations.Exact Transformation.name
  /-- and after any runs of the process after those that of its records. -/
  afterRuns : ∀ t ps p runs, ((tree.groupAfter cutoff t ps).recordsAfter cutoff
    (Destination.derive t.kind t.subKind) p runs).Exact Record.id

/-- **Every tree is well kept**: after any batches, and all through the
next. -/
theorem Tree.wellKept_replay (cutoff : Option Time.Instant) (batches : List (List Task)) :
    Tree.WellKept cutoff ((merge cutoff).replay (merge cutoff).initial batches) := by
  obtain ⟨h, -⟩ := Tree.replay_spec cutoff batches
  generalize (merge cutoff).replay (merge cutoff).initial batches = tree at h ⊢
  exact {
    groups := h.indexed.exact
    transformations := fun g hg => (h.sound g hg).indexed.exact
    records := fun g hg => (h.sound g hg).distinct
    group := h.indexed.get?_eq_find?
    transformation := fun g hg => (h.sound g hg).indexed.get?_eq_find?
    distinct := h.nodup_rows
    ordered := tree.enumerates_rows
    count := tree.length_rows
    afterTasks := fun tasks => (h.next tasks).indexed.exact
    afterProcesses := fun t ps => (h.groupAfter t ps).indexed.exact
    afterRuns := fun t ps p runs => ((h.groupAfter t ps).recordsAfter _ p runs).exact }

end Etl

end Telemetry
