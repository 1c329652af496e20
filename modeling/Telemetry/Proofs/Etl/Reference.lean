import Mathlib.Data.List.Induction
import Telemetry.Proofs.Etl.Levels
/-!
# Etl — what the tree says of the tasks that came

`Tree.Reflects` says what a tree holds in terms of nothing but the tasks
told so far, in the order they came: which groups, transformations and
records it lists, in which order, and what each record says. Every tree a
merge reaches reflects the tasks of all its batches
(`Tree.reflects_replay`), so nothing else about the batches matters.
-/

namespace Telemetry

namespace Etl

open Catalog

variable (cutoff : Option Time.Instant)

/-! ## What was told -/

/-- What some tasks tell of the transformations under a key, each with the
task that told it. -/
def entriesOf (tasks : List Task) (k : TaskKey) : List (Task × Process) :=
  (tasks.filter (·.key == k)).flatMap Task.entries

/-- The runs told of one transformation, each with the task that told
it. -/
def occurrences (tasks : List Task) (k : TaskKey) (name : String) : List (Task × Stats) :=
  ((entriesOf tasks k).filter (·.2.transformation == name)).flatMap fun e => e.2.runs.map (e.1, ·)

/-- Those of them that survive the cutoff. -/
def survivors (cutoff : Option Time.Instant) (tasks : List Task) (k : TaskKey) (name : String) :
    List (Task × Stats) :=
  (occurrences tasks k name).filter (·.2.survives cutoff)

/-- **What a tree says of some tasks.** -/
structure Tree.Reflects (cutoff : Option Time.Instant) (tasks : List Task) (tree : Tree) :
    Prop where
  /-- The groups are those of the keys told, by first occurrence. -/
  keys : tree.groups.toList.map Group.key = (tasks.map Task.key).eraseDups
  /-- A group has the number its task was first told with. -/
  taskId : ∀ g ∈ tree.groups.toList,
    (tasks.find? (·.key == g.key)).map Task.id = some g.taskId
  /-- A group lists the transformations told under its key, by first
  occurrence. -/
  names : ∀ g ∈ tree.groups.toList, g.transformations.toList.map Transformation.name =
    ((entriesOf tasks g.key).map (·.2.transformation)).eraseDups
  /-- A transformation lists the numbers of its surviving runs, by first
  survival. -/
  ids : ∀ g ∈ tree.groups.toList, ∀ t ∈ g.transformations.toList,
    t.records.toList.map Record.id =
      ((survivors cutoff tasks g.key t.name).map (·.2.id)).eraseDups
  /-- A record holds a run equal to the last one of its number to survive,
  and all else it holds but its destination is derived from that one. -/
  content : ∀ g ∈ tree.groups.toList, ∀ t ∈ g.transformations.toList, ∀ r ∈ t.records.toList,
    ∃ last, ((survivors cutoff tasks g.key t.name).filter (·.2.id == r.id)).getLast? = some last ∧
      (r.stats == last.2) = true ∧
      ∀ d, Record.derive last.2 d = .ok { r with stats := last.2, destination := d }

/-! ## One key at a time -/

/-- The records the runs of some entries leave, in order. -/
def keptOf (cutoff : Option Time.Instant) (entries : List (Task × Process)) : List Record :=
  entries.flatMap fun e =>
    e.2.runs.filterMap (Record.kept? cutoff (Destination.derive e.1.kind e.1.subKind))

/-- Every record kept is derived from the run it holds. -/
theorem derive_of_mem_keptOf {entries : List (Task × Process)} {r : Record}
    (h : r ∈ keptOf cutoff entries) : Record.derive r.stats r.destination = .ok r := by
  obtain ⟨e, -, he⟩ := List.mem_flatMap.1 h
  obtain ⟨s, -, hs⟩ := List.mem_filterMap.1 he
  have hr := Record.derive_of_kept? hs
  obtain ⟨hstats, hdest⟩ := Record.of_derive hr
  rw [hstats, hdest, hr]

/-- **The runs of the records kept are the survivors.** -/
theorem map_stats_keptOf (tasks : List Task) (k : TaskKey) (name : String) :
    (keptOf cutoff ((entriesOf tasks k).filter (·.2.transformation == name))).map Record.stats =
      (survivors cutoff tasks k name).map Prod.snd := by
  have hrun : ∀ e : Task × Process,
      (e.2.runs.filterMap (Record.kept? cutoff (Destination.derive e.1.kind e.1.subKind))).map
        Record.stats = ((e.2.runs.map (e.1, ·)).filter (·.2.survives cutoff)).map Prod.snd := by
    intro e
    rw [Record.map_stats_kept?, List.filter_map, List.map_map]
    exact (List.map_id _).symm
  simp only [keptOf, survivors, occurrences, List.map_flatMap, List.filter_flatMap, hrun]

/-- **A transformation told of some entries** gathers the records they
leave. -/
theorem Transformation.entry_told {t : Transformation} (ht : t.Distinct)
    (entries : List (Task × Process)) :
    ∃ t', entry (Transformation.told cutoff) (some t) entries = some t' ∧ t'.name = t.name ∧
      t'.Distinct ∧ t'.records.toList = gatherRecords t.records.toList (keptOf cutoff entries) := by
  induction entries generalizing t with
  | nil => exact ⟨t, rfl, rfl, ht, rfl⟩
  | cons e rest ih =>
    obtain ⟨hname, hdistinct, hlist⟩ := Transformation.absorb_spec cutoff ht
      (Destination.derive e.1.kind e.1.subKind) e.1.name e.2.runs
    obtain ⟨t', ht', hname', hdistinct', hlist'⟩ := ih hdistinct
    refine ⟨t', ht', hname'.trans hname, hdistinct', hlist'.trans ?_⟩
    rw [hlist, gatherRecords, ← gather_append]
    rfl

/-- The first entry about a new transformation finds one without records, so
that there is always one to begin with. -/
theorem Transformation.exists_start {o : Option Transformation} (ho : ∀ t ∈ o, t.Distinct)
    {entries : List (Task × Process)} (hne : entries ≠ []) :
    ∃ t : Transformation, t.Distinct ∧
      entry (Transformation.told cutoff) o entries =
        entry (Transformation.told cutoff) (some t) entries := by
  cases o with
  | some t => exact ⟨t, ho t rfl, rfl⟩
  | none =>
    cases entries with
    | nil => exact absurd rfl hne
    | cons e rest => exact ⟨⟨e.2.transformation, #[]⟩, distinct_blank _, rfl⟩

/-- **A group told of some tasks** takes in their entries. -/
theorem Group.entry_told {g : Group} {tasks : List Task} (hk : ∀ t ∈ tasks, g.key = t.key) :
    entry (Group.told cutoff) (some g) tasks =
      some { g with transformations :=
        reviseEntries cutoff g.transformations (tasks.flatMap Task.entries) } := by
  induction tasks generalizing g with
  | nil => rfl
  | cons t rest ih =>
    have ht : g.key = t.key := hk t List.mem_cons_self
    have htold : Group.told cutoff t (some g) =
        { g with transformations := reviseEntries cutoff g.transformations t.entries } :=
      Group.told_eq cutoff fun g' hg' => by cases hg'; exact ht
    have happend : reviseEntries cutoff g.transformations
        (t.entries ++ rest.flatMap Task.entries) =
          reviseEntries cutoff (reviseEntries cutoff g.transformations t.entries)
            (rest.flatMap Task.entries) := reviseAll_append ..
    rw [entry_cons, htold, List.flatMap_cons, happend]
    exact ih fun t' ht' => hk t' (List.mem_cons_of_mem _ ht')

/-- The first task of a new group finds one without transformations. -/
theorem Group.exists_start {o : Option Group} {k : TaskKey} (hk : ∀ g ∈ o, g.key = k)
    (hs : ∀ g ∈ o, g.Sound) {tasks : List Task} (hne : tasks ≠ [])
    (htasks : ∀ t ∈ tasks, t.key = k) :
    ∃ g : Group, g.key = k ∧ g.Sound ∧
      entry (Group.told cutoff) o tasks = entry (Group.told cutoff) (some g) tasks := by
  cases o with
  | some g => exact ⟨g, hk g rfl, hs g rfl, rfl⟩
  | none =>
    cases tasks with
    | nil => exact absurd rfl hne
    | cons t rest =>
      exact ⟨⟨t.key, t.id, .empty⟩, htasks t List.mem_cons_self, sound_blank t.key t.id, rfl⟩

/-- **A group among those gathered** is made of the tasks of its key. -/
theorem Group.of_mem {tasks : List Task} {g : Group} (h : g ∈ gatherTasks cutoff [] tasks) :
    (tasks.find? (·.key == g.key)).map Task.id = some g.taskId ∧
      g.transformations.toList = gatherEntries cutoff [] (entriesOf tasks g.key) := by
  have hmade := foldl_of_mem_gather (fun t o => Group.key_told cutoff) h
  have hkeys : ∀ t ∈ tasks.filter (·.key == g.key), t.key = g.key := fun t ht => by
    simpa using (List.mem_filter.1 ht).2
  rw [entriesOf, ← List.head?_filter]
  cases htasks : tasks.filter (·.key == g.key) with
  | nil => simp [htasks] at hmade
  | cons t rest =>
    -- the first task makes the group out of one without transformations
    rw [htasks] at hmade hkeys
    have hfirst : ∀ t' ∈ t :: rest, t.key = t'.key := fun t' ht' =>
      (hkeys t List.mem_cons_self).trans (hkeys t' ht').symm
    have hblank := Group.entry_told cutoff (g := ⟨t.key, t.id, .empty⟩) hfirst
    obtain rfl := Option.some.inj (hmade.symm.trans hblank)
    exact ⟨rfl, ((Group.sound_blank t.key t.id).reviseEntries cutoff _).2⟩

/-- **A transformation among those gathered** is made of the entries of
its name. -/
theorem Transformation.of_mem {entries : List (Task × Process)} {t : Transformation}
    (h : t ∈ gatherEntries cutoff [] entries) :
    t.records.toList =
      gatherRecords [] (keptOf cutoff (entries.filter (·.2.transformation == t.name))) := by
  have hmade := foldl_of_mem_gather (fun e o => Transformation.name_told cutoff) h
  cases hentries : entries.filter (·.2.transformation == t.name) with
  | nil => simp [hentries] at hmade
  | cons e rest =>
    -- the first entry makes the transformation out of one without records
    rw [hentries] at hmade
    obtain ⟨t', ht', -, -, hlist⟩ := Transformation.entry_told cutoff
      (distinct_blank e.2.transformation) (e :: rest)
    obtain rfl := Option.some.inj (hmade.symm.trans ht')
    exact hlist

/-- **A record among those gathered** holds a run equal to the last one of
its number. -/
theorem Record.of_mem {rs : List Record} {r : Record} (h : r ∈ gatherRecords [] rs) :
    r ∈ rs ∧ ∃ last, (rs.filter (·.id == r.id)).getLast? = some last ∧
      (r.stats == last.stats) = true := by
  obtain ⟨hr, hlast⟩ :=
    Record.foldl_renew (foldl_of_mem_gather (fun r o => Record.id_renew) h)
  exact ⟨(List.mem_filter.1 hr).1, hlast⟩

/-! ## The tree -/

/-- **Every tree reflects what came**: after any batches, in any cuts, the
tree says of the tasks in them what `Reflects` says. -/
theorem Tree.reflects_replay (cutoff : Option Time.Instant) (batches : List (List Task)) :
    Tree.Reflects cutoff batches.flatten
      ((merge cutoff).replay (merge cutoff).initial batches) := by
  obtain ⟨-, hgroups⟩ := Tree.replay_spec cutoff batches
  generalize (merge cutoff).replay (merge cutoff).initial batches = tree at hgroups ⊢
  generalize batches.flatten = tasks at hgroups ⊢
  -- what is known of each group, and of each of its transformations
  have group : ∀ g ∈ tree.groups.toList,
      (tasks.find? (·.key == g.key)).map Task.id = some g.taskId ∧
      g.transformations.toList = gatherEntries cutoff [] (entriesOf tasks g.key) :=
    fun g hg => Group.of_mem cutoff (hgroups ▸ hg)
  have transformation : ∀ g ∈ tree.groups.toList, ∀ t ∈ g.transformations.toList,
      t.records.toList = gatherRecords []
        (keptOf cutoff ((entriesOf tasks g.key).filter (·.2.transformation == t.name))) :=
    fun g hg t ht => Transformation.of_mem cutoff ((group g hg).2 ▸ ht)
  refine ⟨?_, fun g hg => (group g hg).1, fun g hg => ?_, fun g hg t ht => ?_,
    fun g hg t ht r hr => ?_⟩
  · rw [hgroups]
    exact map_key_gather (fun t o => Group.key_told cutoff) tasks
  · rw [(group g hg).2]
    exact map_key_gather (fun e o => Transformation.name_told cutoff) _
  · rw [transformation g hg t ht, map_key_gather fun r o => Record.id_renew]
    have hstats := congrArg (List.map Stats.id) (map_stats_keptOf cutoff tasks g.key t.name)
    rw [List.map_map, List.map_map] at hstats
    exact congrArg List.eraseDups hstats
  · rw [transformation g hg t ht] at hr
    obtain ⟨hmem, last, hlast, heq⟩ := Record.of_mem hr
    -- the last record kept of the number is that of the last survivor
    have hsurvivor : (((survivors cutoff tasks g.key t.name).filter (·.2.id == r.id)).map
        Prod.snd).getLast? = some last.stats := by
      have hstats := congrArg (List.filter (fun s : Stats => s.id == r.id))
        (map_stats_keptOf cutoff tasks g.key t.name)
      rw [List.filter_map, List.filter_map] at hstats
      rw [show (fun e : Task × Stats => e.2.id == r.id) =
        (fun s : Stats => s.id == r.id) ∘ Prod.snd from rfl, ← hstats, List.getLast?_map]
      exact congrArg (Option.map Record.stats) hlast
    rw [List.getLast?_map, Option.map_eq_some_iff] at hsurvivor
    obtain ⟨s, hs, hstats⟩ := hsurvivor
    rw [← hstats] at heq
    exact ⟨s, hs, heq, Record.derive_congr heq (derive_of_mem_keptOf cutoff hmem)⟩

end Etl

end Telemetry
