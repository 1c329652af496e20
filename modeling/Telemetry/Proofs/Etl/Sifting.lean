import Telemetry.Proofs.Etl.Lookup
import Telemetry.Proofs.Merge.Sifting
/-!
# Etl — runs that leave no trace

A run that started at or before the cutoff, or of which a stamp cannot be read,
might as well not have come: a tree without a cutoff that is told of the other
runs alone is the same tree, its indexes with it (`merge_sifts`). The tasks and
the transformations it came with are listed all the same. Only the run with the
unreadable stamp is reported, with the stamp that was read first.

So no record is held that is not past the cutoff (`Tree.past_replay`), and a
record stays what it is while the runs of its number that come leave no trace
(`Tree.Sound.record?_next_of_dropped`).
-/

namespace Telemetry

namespace Etl

open Catalog

variable (cutoff : Option Time.Instant)

/-! ## What is left -/

/-- A transformation with the runs that survive. -/
def Process.sift (p : Process) : Process := { p with runs := p.runs.filter (·.survives cutoff) }

/-- **A task with the runs that survive**, in all its transformations. -/
def Task.sift (t : Task) : Task := { t with processes := t.processes.map (Process.sift cutoff) }

/-! ## What is reported -/

/-- The stamp of a run that cannot be read: that of its start comes first. -/
def Stats.refusal? (s : Stats) : Option StampRefusal :=
  match Time.Instant.ofStamp? s.started with
  | none => some ⟨"Started", s.started⟩
  | some _ => s.completed.bind fun value =>
    match Time.Instant.ofStamp? value with
    | none => some ⟨"Completed", value⟩
    | some _ => none

/-- The runs of a transformation that are reported. -/
def Process.skips (task : String) (p : Process) : List Skip :=
  p.runs.flatMap fun s =>
    (s.refusal?.map fun refusal => Skip.mk task p.transformation s.id refusal).toList

/-- **The runs of a task that are reported**, in their order. -/
def Task.skips (t : Task) : List Skip := t.processes.flatMap (Process.skips t.name)

/-- A record cannot be derived from exactly the runs that are reported. -/
theorem Stats.refusal?_eq (s : Stats) (d : Destination) :
    s.refusal? = match Record.derive s d with
      | .error refusal => some refusal
      | .ok _ => none := by
  rw [Record.derive_eq, Stats.refusal?]
  cases Time.Instant.ofStamp? s.started with
  | none => rfl
  | some started =>
    cases s.completed with
    | none => rfl
    | some value => cases h : Time.Instant.ofStamp? value <;> simp [h]

/-- A run that survives is not reported. -/
theorem Stats.refusal?_of_survives {s : Stats} (h : s.survives cutoff = true) :
    s.refusal? = none := by
  unfold Stats.survives at h
  unfold Stats.refusal?
  cases hstarted : Time.Instant.ofStamp? s.started with
  | none => simp [hstarted] at h
  | some started =>
    cases hcompleted : s.completed with
    | none => rfl
    | some value => cases hended : Time.Instant.ofStamp? value <;> simp_all

/-! ## One run -/

variable {destination : Destination} {task name : String}

/-- A run that does not survive changes nothing. -/
theorem absorbRun_agrees_unchanged (c : Catalog Int Record) {s : Stats}
    (h : s.survives cutoff = false) :
    (absorbRun cutoff destination task name c s).Agrees (.unchanged c) := by
  rw [← Record.isSome_kept? cutoff destination, Record.kept?] at h
  unfold absorbRun
  cases hderive : Record.derive s destination with
  | error refusal => exact ⟨rfl, rfl⟩
  | ok r =>
    have hold : ¬ r.startedAt.past cutoff = true := fun hp => by simp [hderive, hp] at h
    dsimp only
    rw [if_neg hold]
    exact ⟨rfl, rfl⟩

/-- A run that survives is taken in as if there were no cutoff. -/
theorem absorbRun_of_survives (c : Catalog Int Record) {s : Stats}
    (h : s.survives cutoff = true) :
    absorbRun cutoff destination task name c s = absorbRun none destination task name c s := by
  rw [← Record.isSome_kept? cutoff destination, Record.kept?] at h
  unfold absorbRun
  cases hderive : Record.derive s destination with
  | error refusal => rfl
  | ok r =>
    have hpast : r.startedAt.past cutoff = true := by
      by_contra hold
      simp [hderive, hold] at h
    have hnone : r.startedAt.past none = true := rfl
    simp only [hpast, hnone]

/-- What is reported of a run is the stamp that cannot be read. -/
theorem skipped_absorbRun (c : Catalog Int Record) (s : Stats) :
    (absorbRun cutoff destination task name c s).skipped =
      (s.refusal?.map fun refusal => Skip.mk task name s.id refusal).toList := by
  rw [s.refusal?_eq destination]
  unfold absorbRun
  cases Record.derive s destination with
  | error refusal => rfl
  | ok r =>
    dsimp only
    split
    · split
      · split <;> rfl
      · rfl
    · rfl

/-! ## The levels above -/

/-- **Runs come to the same** as those of them that survive. -/
theorem Transformation.absorb_agrees (t : Transformation) (runs : List Stats) :
    (t.absorb cutoff destination task runs).Agrees
      (t.absorb none destination task (runs.filter (·.survives cutoff))) := by
  refine Ingestion.Agrees.map ?_ _
  refine Ingestion.agrees_each_filter (fun c s hs => ?_) (fun c s hs => ?_) _ runs
  · exact absorbRun_agrees_unchanged cutoff c hs
  · rw [absorbRun_of_survives cutoff c hs]
    exact ⟨rfl, rfl⟩

theorem Group.absorb_agrees (g : Group) (p : Process) :
    (g.absorb cutoff destination p).Agrees (g.absorb none destination (p.sift cutoff)) := by
  have hname : (p.sift cutoff).transformation = p.transformation := rfl
  unfold Group.absorb
  rw [hname]
  cases g.transformations.get? p.transformation with
  | some t => exact (t.absorb_agrees cutoff p.runs).map _
  | none =>
    let blank : Transformation := ⟨p.transformation, #[]⟩
    have hblank : (blank.absorb cutoff destination g.key.name p.runs).Agrees
        (blank.absorb none destination g.key.name (p.sift cutoff).runs) :=
      blank.absorb_agrees cutoff p.runs
    exact ⟨congrArg (fun t => Group.mk g.key g.taskId (g.transformations.put p.transformation t))
      hblank.1, rfl⟩

/-- **A task comes to the same** as what is left of it. -/
theorem Tree.absorb_agrees (tree : Tree) (t : Task) :
    (tree.absorb cutoff t).Agrees (tree.absorb none (t.sift cutoff)) := by
  have hkey : (t.sift cutoff).key = t.key := rfl
  unfold Tree.absorb
  rw [hkey]
  dsimp only [Task.sift]
  generalize Destination.derive t.kind t.subKind = destination
  have hgroup : ∀ g : Group,
      (Ingestion.each (Group.absorb cutoff destination) g t.processes).Agrees
        (Ingestion.each (Group.absorb none destination) g
          (t.processes.map (Process.sift cutoff))) :=
    fun g => Ingestion.agrees_each_map (fun g p => g.absorb_agrees cutoff p) g t.processes
  cases tree.groups.get? t.key with
  | some g => exact (hgroup g).map _
  | none =>
    exact ⟨congrArg (fun g => Tree.mk (tree.groups.put t.key g)) (hgroup ⟨t.key, t.id, .empty⟩).1,
      rfl⟩

/-- What is reported of some runs, under the name of their transformation. -/
theorem Transformation.skipped_absorb (t : Transformation) (runs : List Stats) :
    (t.absorb cutoff destination task runs).skipped = Process.skips task ⟨t.name, runs⟩ :=
  Ingestion.skipped_each (P := fun _ => True)
    (fun c s _ => ⟨skipped_absorbRun cutoff c s, trivial⟩) trivial runs

/-- What is reported of a process, under the name of its task. -/
theorem Group.Sound.skipped_absorb {g : Group} (h : g.Sound) (p : Process) :
    (g.absorb cutoff destination p).skipped = p.skips g.key.name := by
  unfold Group.absorb
  cases hget : g.transformations.get? p.transformation with
  | some t =>
    have hname : t.name = p.transformation := (h.of_get? hget).1
    change (t.absorb cutoff destination g.key.name p.runs).skipped = _
    rw [t.skipped_absorb, hname]
  | none => exact Transformation.skipped_absorb cutoff _ p.runs

/-- **What is reported of a task.** -/
theorem Tree.Sound.skipped_absorb {tree : Tree} (h : tree.Sound) (t : Task) :
    (tree.absorb cutoff t).skipped = t.skips := by
  -- the group keeps the key of the task, and stays sound
  have hgroup : ∀ g : Group, g.key = t.key → g.Sound →
      (Ingestion.each (Group.absorb cutoff t.destination) g t.processes).skipped = t.skips := by
    intro g hkey hsound
    refine Ingestion.skipped_each (P := fun g : Group => g.key = t.key ∧ g.Sound)
      (fun g p hg => ?_) ⟨hkey, hsound⟩ t.processes
    have hname : g.key.name = t.name := congrArg TaskKey.name hg.1
    refine ⟨by rw [hg.2.skipped_absorb, hname], ?_⟩
    rw [Group.tree_absorb cutoff hg.1]
    exact ⟨hg.1, (hg.2.reviseEntries cutoff _).1⟩
  unfold Tree.absorb
  cases hget : tree.groups.get? t.key with
  | some g => exact hgroup g (h.of_get? hget).1 (h.of_get? hget).2
  | none => exact hgroup _ rfl (Group.sound_blank t.key t.id)

/-- What is reported of a batch. -/
theorem Tree.Sound.skipped_ingest {tree : Tree} (h : tree.Sound) (batch : List Task) :
    ((merge cutoff).ingest tree batch).skipped = batch.flatMap Task.skips := by
  refine Ingestion.skipped_each (P := Tree.Sound) (fun tree t htree => ?_) h batch
  refine ⟨htree.skipped_absorb cutoff t, ?_⟩
  rw [Tree.tree_absorb_eq]
  exact (htree.reviseTasks cutoff [t]).1

/-- Nothing is reported of what is left of a task. -/
theorem Task.skips_sift (t : Task) : (t.sift cutoff).skips = [] := by
  refine List.flatMap_eq_nil_iff.2 fun p hp => ?_
  obtain ⟨p, -, rfl⟩ := List.mem_map.1 hp
  refine List.flatMap_eq_nil_iff.2 fun s hs => ?_
  rw [Stats.refusal?_of_survives cutoff (List.mem_filter.1 hs).2]
  rfl

/-- **The merge of ETL statistics sifts the runs that survive.** -/
theorem merge_sifts (batches : List (List Task)) :
    (merge cutoff).Sifts (merge none) (List.map (Task.sift cutoff)) Task.skips batches := by
  have hinitial : (merge cutoff).initial = (merge none).initial := rfl
  refine .of_agrees hinitial (fun tree batch => ?_) fun batch => ?_
  · exact Ingestion.agrees_each_map (fun tree t => tree.absorb_agrees cutoff t) tree batch
  · refine ⟨(Tree.sound_empty.replay cutoff batches).skipped_ingest cutoff batch, ?_⟩
    have hsound : ((merge none).replay (merge none).initial
        (batches.map (List.map (Task.sift cutoff)))).Sound := Tree.sound_empty.replay none _
    rw [hsound.skipped_ingest none]
    refine List.flatMap_eq_nil_iff.2 fun t ht => ?_
    obtain ⟨t, -, rfl⟩ := List.mem_map.1 ht
    exact t.skips_sift cutoff

/-! ## What is held -/

/-- No record is held that is not past the cutoff. -/
def Tree.Past (tree : Tree) : Prop :=
  ∀ g ∈ tree.groups.toList, ∀ t ∈ g.transformations.toList, ∀ r ∈ t.records.toList,
    r.startedAt.past cutoff = true

/-- A run that leaves a record started past the cutoff. -/
theorem past_of_recordOf? {x : Task × Stats} {r : Record} (h : recordOf? cutoff x = some r) :
    r.startedAt.past cutoff = true := by
  unfold recordOf? Record.kept? at h
  split at h
  · cases h
  · split at h
    · next hpast => exact Option.some.inj h ▸ hpast
    · cases h

/-- **No record is held that is not past the cutoff**, whatever comes. -/
theorem Tree.past_replay (batches : List (List Task)) :
    ((merge cutoff).replay (merge cutoff).initial batches).Past cutoff := by
  intro g hg t ht r hr
  have hsound : ((merge cutoff).replay (merge cutoff).initial batches).Sound :=
    Tree.sound_empty.replay cutoff batches
  have hfound := hsound.record?_of_mem hg ht hr
  rw [Tree.record?_replay_initial cutoff batches] at hfound
  obtain ⟨x, -, hx⟩ := List.mem_filterMap.1 (Record.foldl_renew hfound).1
  exact past_of_recordOf? cutoff hx

/-- **A record stays in place** while no run of its number that comes
survives. -/
theorem Tree.Sound.record?_next_of_dropped {tree : Tree} (h : tree.Sound) {batch : List Task}
    {k : TaskKey} {name : String} {id : Int} (hdropped : resends cutoff batch k name id = []) :
    ((merge cutoff).next tree batch).record? k name id = tree.record? k name id := by
  have hnext := h.record?_replay cutoff [batch] k name id
  rw [List.flatten_singleton, versions, hdropped] at hnext
  exact hnext

end Etl

end Telemetry
