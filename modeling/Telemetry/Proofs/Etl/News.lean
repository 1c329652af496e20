import Telemetry.Proofs.Etl.Reference
/-!
# Etl — runs that are news

A task is news to a tree that does not list it, or not one of the
transformations it tells of, or to which one of its runs is news: one that
survives the cutoff, while no record of the transformation holds an equal run.
A batch is said to change the tree if some task in it is news
(`Tree.Sound.changed_ingest`), though a run that is news may give way to
another run of its number in the same batch.

So a batch that tells a number of two different runs is always said to change
the tree, also when it comes again; any other batch is said to do so exactly if
it does (`Tree.Sound.tells_merge`). For when the batch has been merged, the
last run of each number is held, or an equal one, and with it all runs of that
number.
-/

namespace Telemetry

namespace Etl

open Catalog

variable {cutoff : Option Time.Instant} {destination : Destination} {task name : String}

/-! ## The merge is candid -/

theorem tree_absorbRun_of_unchanged {records : Catalog Int Record} {s : Stats}
    (h : (absorbRun cutoff destination task name records s).changed = false) :
    (absorbRun cutoff destination task name records s).tree = records := by
  revert h
  unfold absorbRun
  split
  · exact fun _ => rfl
  · split
    · split
      · split
        · exact fun _ => rfl
        · intro hmoved
          cases hmoved
      · intro hmoved
        cases hmoved
    · exact fun _ => rfl

theorem Transformation.tree_absorb_of_unchanged {t : Transformation} {runs : List Stats}
    (h : (t.absorb cutoff destination task runs).changed = false) :
    (t.absorb cutoff destination task runs).tree = t := by
  have hrecords := Ingestion.tree_each_of_unchanged (fun _ _ => tree_absorbRun_of_unchanged) h
  simp only [Transformation.absorb, Ingestion.map, hrecords]
  rfl

theorem Group.tree_absorb_of_unchanged {g : Group} {p : Process}
    (h : (g.absorb cutoff destination p).changed = false) :
    (g.absorb cutoff destination p).tree = g := by
  revert h
  unfold Group.absorb
  split
  · next t ht =>
    intro h
    have htransformation : (t.absorb cutoff destination g.key.name p.runs).tree = t :=
      Transformation.tree_absorb_of_unchanged h
    simp only [Ingestion.map, htransformation, Catalog.put_get? ht]
  · intro hmoved
    cases hmoved

theorem Tree.tree_absorb_of_unchanged {tree : Tree} {t : Task}
    (h : (tree.absorb cutoff t).changed = false) : (tree.absorb cutoff t).tree = tree := by
  revert h
  unfold Tree.absorb
  split
  · next g hg =>
    intro h
    have hgroup := Ingestion.tree_each_of_unchanged (fun _ _ => Group.tree_absorb_of_unchanged) h
    simp only [Ingestion.map, hgroup, Catalog.put_get? hg]
  · intro hmoved
    cases hmoved

/-- **The merge of ETL statistics is candid**: at each level what is not said
to change is put back in its own place. -/
theorem merge_candid (cutoff : Option Time.Instant) : (merge cutoff).Candid := by
  intro tree batch h
  exact Ingestion.tree_each_of_unchanged (fun _ _ => Tree.tree_absorb_of_unchanged) h

/-! ## News -/

/-- What a tree lists: of each task its key, its number and its
transformations. -/
def Tree.listing (tree : Tree) : List (TaskKey × Int × List Transformation) :=
  tree.groups.toList.map fun g => (g.key, g.taskId, g.transformations.toList)

/-- A run is news to some records if it survives, and none of them holds an
equal one. -/
def Stats.isNews (cutoff : Option Time.Instant) (records : List Record) (s : Stats) : Bool :=
  s.survives cutoff && records.all fun r => !(r.stats == s)

/-- A process is news to some transformations if its own is not among them, or
some of its runs are news to the records of that one. -/
def Process.isNews (cutoff : Option Time.Instant) (ts : List Transformation) (p : Process) : Bool :=
  match ts.find? (·.name == p.transformation) with
  | none => true
  | some t => p.runs.any (Stats.isNews cutoff t.records.toList)

/-- A task is news to a tree that does not list it, or to whose transformations
some of its processes are news. -/
def Tree.isNews (cutoff : Option Time.Instant) (tree : Tree) (t : Task) : Bool :=
  match tree.listing.find? (·.1 == t.key) with
  | none => true
  | some (_, _, ts) => t.processes.any (Process.isNews cutoff ts)

/-- Equal runs have one number. -/
theorem Stats.id_eq_of_beq {s s' : Stats} (h : (s == s') = true) : s.id = s'.id := by
  rw [Stats.beq_eq, Bool.and_eq_true] at h
  exact eq_of_beq h.1

/-- Of records with numbers of their own only the one of its number can hold a
run. -/
theorem Record.all_ne_eq {records : List Record} (hn : (records.map Record.id).Nodup) (s : Stats) :
    (records.all fun r => !(r.stats == s)) =
      (records.find? (·.id == s.id)).all fun r => !(r.stats == s) := by
  rw [Bool.eq_iff_iff, List.all_eq_true, Option.all_eq_true]
  constructor
  · intro h r hr
    exact h r (List.mem_of_find?_eq_some hr)
  · intro h r hr
    by_contra hheld
    have heq : (r.stats == s) = true := by simpa using hheld
    have hid : r.id = s.id := Stats.id_eq_of_beq heq
    have hfind : records.find? (·.id == r.id) = some r := find?_of_mem hn hr
    rw [hid] at hfind
    exact hheld (h r hfind)

/-- **A run is said to change the records to which it is news.** -/
theorem changed_absorbRun {c : Catalog Int Record} (hc : c.Indexed Record.id) (s : Stats) :
    (absorbRun cutoff destination task name c s).changed = s.isNews cutoff c.toList := by
  rw [Stats.isNews, Record.all_ne_eq hc.nodup, ← hc.get?_eq_find?,
    ← Record.isSome_kept? cutoff destination]
  unfold absorbRun Record.kept?
  cases Record.derive s destination with
  | error refusal => rfl
  | ok r =>
    by_cases hp : r.startedAt.past cutoff
    · cases hget : c.get? s.id with
      | none => simp [hp, Ingestion.moved]
      | some held =>
        by_cases heq : held.stats == s <;>
          simp [hp, heq, Ingestion.unchanged, Ingestion.moved]
    · simp [hp, Ingestion.unchanged]

/-- So are runs, one after the other. -/
theorem Transformation.changed_absorb {t : Transformation} (ht : t.Distinct) (runs : List Stats) :
    (t.absorb cutoff destination task runs).changed =
      runs.any (Stats.isNews cutoff t.records.toList) := by
  change (Ingestion.each (absorbRun cutoff destination task t.name) (.ofArray Record.id t.records)
    runs).changed = _
  rw [Ingestion.changed_each fun _ _ => tree_absorbRun_of_unchanged]
  exact congrArg runs.any (funext fun s => changed_absorbRun (indexed_ofArray ht) s)

/-- **A process is said to change a group to which it is news.** -/
theorem Group.Sound.changed_absorb {g : Group} (h : g.Sound) (p : Process) :
    (g.absorb cutoff destination p).changed = p.isNews cutoff g.transformations.toList := by
  rw [Process.isNews, ← h.indexed.get?_eq_find?]
  unfold Group.absorb
  cases hget : g.transformations.get? p.transformation with
  | none => rfl
  | some t =>
    exact Transformation.changed_absorb (h.of_get? hget).2 p.runs

/-- What is listed under a key is what is found there. -/
theorem Tree.Sound.find?_listing {tree : Tree} (h : tree.Sound) (k : TaskKey) :
    tree.listing.find? (·.1 == k) =
      (tree.groups.get? k).map fun g => (g.key, g.taskId, g.transformations.toList) := by
  rw [h.indexed.get?_eq_find?, Tree.listing, List.find?_map]
  rfl

/-- **A task is said to change a tree to which it is news.** -/
theorem Tree.Sound.changed_absorb {tree : Tree} (h : tree.Sound) (t : Task) :
    (tree.absorb cutoff t).changed = tree.isNews cutoff t := by
  rw [Tree.isNews, h.find?_listing]
  unfold Tree.absorb
  cases hget : tree.groups.get? t.key with
  | none => rfl
  | some g =>
    have hsound := (h.of_get? hget).2
    change (Ingestion.each (Group.absorb cutoff _) g t.processes).changed = _
    rw [Ingestion.changed_each fun _ _ => Group.tree_absorb_of_unchanged]
    exact congrArg t.processes.any (funext hsound.changed_absorb)

/-- **A batch is said to change a tree to which it brings news.** -/
theorem Tree.Sound.changed_ingest {tree : Tree} (h : tree.Sound) (batch : List Task) :
    ((merge cutoff).ingest tree batch).changed = batch.any (tree.isNews cutoff) := by
  change (Ingestion.each (Tree.absorb cutoff) tree batch).changed = _
  rw [Ingestion.changed_each fun _ _ => Tree.tree_absorb_of_unchanged]
  exact congrArg batch.any (funext h.changed_absorb)

/-! ## Batches that do not contradict themselves -/

/-- A batch does not contradict itself if all its surviving runs of one number
are equal, in each transformation of each task. -/
def Consistent (cutoff : Option Time.Instant) (batch : List Task) : Prop :=
  ∀ k name, ∀ x ∈ survivors cutoff batch k name, ∀ y ∈ survivors cutoff batch k name,
    x.2.id = y.2.id → (x.2 == y.2) = true

theorem mem_survivors {batch : List Task} {k : TaskKey} {x : Task × Stats} :
    x ∈ survivors cutoff batch k name ↔ (x.1 ∈ batch ∧ x.1.key = k) ∧
      (∃ p ∈ x.1.processes, p.transformation = name ∧ x.2 ∈ p.runs) ∧
        x.2.survives cutoff = true := by
  obtain ⟨t, s⟩ := x
  simp only [survivors, occurrences, entriesOf, Task.entries, List.mem_filter, List.mem_flatMap,
    List.mem_map, beq_iff_eq, Prod.mk.injEq]
  constructor
  · rintro ⟨⟨-, ⟨⟨t', ⟨ht', hk⟩, p, hp, rfl⟩, hname⟩, s', hs', rfl, rfl⟩, hsurvives⟩
    exact ⟨⟨ht', hk⟩, ⟨p, hp, hname, hs'⟩, hsurvives⟩
  · rintro ⟨⟨ht, hk⟩, ⟨p, hp, hname, hs⟩, hsurvives⟩
    exact ⟨⟨(t, p), ⟨⟨t, ⟨ht, hk⟩, p, hp, rfl⟩, hname⟩, s, hs, rfl, rfl⟩, hsurvives⟩

/-- The records of one transformation; there are none if it is not listed. -/
def Tree.records (tree : Tree) (k : TaskKey) (name : String) : List Record :=
  match tree.listing.find? (·.1 == k) with
  | none => []
  | some (_, _, ts) => ((ts.find? (·.name == name)).map (·.records.toList)).getD []

/-- The records of one transformation have numbers of their own. -/
theorem Tree.Sound.nodup_records {tree : Tree} (h : tree.Sound) (k : TaskKey) (name : String) :
    ((tree.records k name).map Record.id).Nodup := by
  rw [Tree.records, h.find?_listing]
  cases hget : tree.groups.get? k with
  | none => exact List.nodup_nil
  | some g =>
    have hsound := (h.of_get? hget).2
    dsimp only [Option.map_some]
    cases hfind : g.transformations.toList.find? (·.name == name) with
    | none => exact List.nodup_nil
    | some t => exact hsound.distinct t (List.mem_of_find?_eq_some hfind)

/-- **The surviving runs of a task that is not news are held**, or equal
ones. -/
theorem Tree.exists_record_of_old {tree : Tree} {t : Task} (h : tree.isNews cutoff t = false)
    {p : Process} (hp : p ∈ t.processes) {s : Stats} (hs : s ∈ p.runs)
    (hsurvives : s.survives cutoff = true) :
    ∃ r ∈ tree.records t.key p.transformation, (r.stats == s) = true := by
  unfold Tree.isNews at h
  unfold Tree.records
  cases hlisted : tree.listing.find? (·.1 == t.key) with
  | none => simp [hlisted] at h
  | some g =>
    rw [hlisted] at h
    have hprocess := List.any_eq_false.1 h p hp
    unfold Process.isNews at hprocess
    dsimp only
    cases htransformation : g.2.2.find? (·.name == p.transformation) with
    | none => simp [htransformation] at hprocess
    | some t' =>
      rw [htransformation, Bool.not_eq_true] at hprocess
      have hrun := List.any_eq_false.1 hprocess s hs
      rw [Bool.not_eq_true, Stats.isNews, hsurvives, Bool.true_and, List.all_eq_false] at hrun
      simpa using hrun

/-- **A batch of which nothing is news does not contradict itself**: its runs
are all held, and no two of one number are. -/
theorem Tree.Sound.consistent {tree : Tree} (h : tree.Sound) {batch : List Task}
    (hold : ∀ t ∈ batch, tree.isNews cutoff t = false) : Consistent cutoff batch := by
  have held : ∀ k name, ∀ x ∈ survivors cutoff batch k name,
      ∃ r ∈ tree.records k name, (r.stats == x.2) = true := by
    intro k name x hx
    obtain ⟨⟨ht, rfl⟩, ⟨p, hp, rfl, hs⟩, hsurvives⟩ := mem_survivors.1 hx
    exact Tree.exists_record_of_old (hold x.1 ht) hp hs hsurvives
  intro k name x hx y hy hid
  obtain ⟨r, hr, hrx⟩ := held k name x hx
  obtain ⟨r', hr', hry⟩ := held k name y hy
  have hrid : r.id = x.2.id := Stats.id_eq_of_beq hrx
  have hrid' : r'.id = y.2.id := Stats.id_eq_of_beq hry
  -- so both runs are held by one record
  have hnumber : r.id = r'.id := by rw [hrid, hid, hrid']
  obtain rfl := List.inj_on_of_nodup_map (h.nodup_records k name) hr hr' hnumber
  exact BEq.trans (BEq.symm hrx) hry

/-! ## After a batch -/

/-- Of some records gathered, one holds the last run of each number, or an
equal one. -/
theorem Record.exists_gathered (records : List Record) {incoming : List Record} {r : Record}
    (hr : r ∈ incoming) :
    ∃ held ∈ gatherRecords records incoming, ∃ last ∈ incoming, last.id = r.id ∧
      (held.stats == last.stats) = true := by
  have hfind : (gatherRecords records incoming).find? (·.id == r.id) =
      entry Record.renew (records.find? (·.id == r.id)) (incoming.filter (·.id == r.id)) :=
    find?_gather (fun r o => Record.id_renew) records incoming r.id
  have hmem : r ∈ incoming.filter (·.id == r.id) := List.mem_filter.2 ⟨hr, by simp⟩
  cases hnumber : incoming.filter (·.id == r.id) using List.reverseRecOn with
  | nil => simp [hnumber] at hmem
  | append_singleton rest last =>
    rw [hnumber, entry_append] at hfind
    have hlast : last ∈ incoming.filter (·.id == r.id) := by simp [hnumber]
    obtain ⟨hlastmem, hid⟩ := List.mem_filter.1 hlast
    exact ⟨_, List.mem_of_find?_eq_some hfind, last, hlastmem, by simpa using hid,
      Record.stats_renew last _⟩

/-- The runs of the records kept are the surviving ones. -/
theorem exists_kept_iff {batch : List Task} {k : TaskKey} {s : Stats} :
    (∃ r ∈ keptOf cutoff ((entriesOf batch k).filter (·.2.transformation == name)), r.stats = s) ↔
      ∃ x ∈ survivors cutoff batch k name, x.2 = s := by
  rw [← List.mem_map, ← List.mem_map, map_stats_keptOf]

/-- **A surviving run of a batch that does not contradict itself** is held by
what has gathered the records of the batch, or an equal one: for the last run of
its number is, and that one equals it. -/
theorem Consistent.exists_held {batch : List Task} (hbatch : Consistent cutoff batch)
    (records : List Record) {k : TaskKey} {x : Task × Stats}
    (hx : x ∈ survivors cutoff batch k name) :
    ∃ held ∈ gatherRecords records
        (keptOf cutoff ((entriesOf batch k).filter (·.2.transformation == name))),
      (held.stats == x.2) = true := by
  obtain ⟨r, hr, hstats⟩ := exists_kept_iff.2 ⟨x, hx, rfl⟩
  obtain ⟨held, hheld, last, hlast, hid, heq⟩ := Record.exists_gathered records hr
  obtain ⟨y, hy, hlaststats⟩ := exists_kept_iff.1 ⟨last, hlast, rfl⟩
  have hnumber : y.2.id = x.2.id := by
    rw [hlaststats, ← hstats]
    exact hid
  have hsame : (last.stats == x.2) = true := hlaststats ▸ hbatch k name y hy x hx hnumber
  exact ⟨held, hheld, BEq.trans heq hsame⟩

/-- What is found of a transformation after some tasks of its group: one that
has gathered what was told of it. -/
theorem Group.find?_told (cutoff : Option Time.Instant) {g : Group} (h : g.Sound)
    {entries : List (Task × Process)} {e : Task × Process} (he : e ∈ entries) :
    ∃ t records, (reviseEntries cutoff g.transformations entries).toList.find?
        (·.name == e.2.transformation) = some t ∧
      t.records.toList = gatherRecords records
        (keptOf cutoff (entries.filter (·.2.transformation == e.2.transformation))) := by
  have hfind : (reviseEntries cutoff g.transformations entries).get? e.2.transformation =
      entry (Transformation.told cutoff) (g.transformations.get? e.2.transformation)
        (entries.filter (·.2.transformation == e.2.transformation)) :=
    h.indexed.get?_reviseAll (fun e o => Transformation.name_told cutoff) entries _
  have hne : entries.filter (·.2.transformation == e.2.transformation) ≠ [] :=
    List.ne_nil_of_mem (List.mem_filter.2 ⟨he, by simp⟩)
  obtain ⟨t, ht, hstart⟩ := Transformation.exists_start cutoff (fun t ht => (h.of_get? ht).2) hne
  obtain ⟨t', ht', -, -, hlist⟩ := Transformation.entry_told cutoff ht
    (entries.filter (·.2.transformation == e.2.transformation))
  rw [hstart, ht', (h.reviseEntries cutoff entries).1.indexed.get?_eq_find?] at hfind
  exact ⟨t', t.records.toList, hfind, hlist⟩

/-- What is found of a task after a batch with it: a group that has taken in
what the batch tells of it. -/
theorem Tree.Sound.find?_listing_next (cutoff : Option Time.Instant) {tree : Tree} (h : tree.Sound)
    {batch : List Task} {t : Task} (ht : t ∈ batch) :
    ∃ g : Group, g.Sound ∧ ((merge cutoff).next tree batch).listing.find? (·.1 == t.key) =
      some (g.key, g.taskId,
        (reviseEntries cutoff g.transformations (entriesOf batch t.key)).toList) := by
  have hget : (Etl.reviseTasks cutoff tree.groups batch).get? t.key =
      entry (Group.told cutoff) (tree.groups.get? t.key) (batch.filter (·.key == t.key)) :=
    h.indexed.get?_reviseAll (fun t o => Group.key_told cutoff) batch t.key
  have hne : batch.filter (·.key == t.key) ≠ [] :=
    List.ne_nil_of_mem (List.mem_filter.2 ⟨ht, by simp⟩)
  have hkeys : ∀ t' ∈ batch.filter (·.key == t.key), t'.key = t.key := fun t' ht' => by
    simpa using (List.mem_filter.1 ht').2
  obtain ⟨g, hg, hsound, hstart⟩ := Group.exists_start cutoff (fun g hg => (h.of_get? hg).1)
    (fun g hg => (h.of_get? hg).2) hne hkeys
  rw [hstart, Group.entry_told cutoff fun t' ht' => hg.trans (hkeys t' ht').symm] at hget
  have hnext : (merge cutoff).next tree batch =
      ⟨Etl.reviseTasks cutoff tree.groups [batch].flatten⟩ := Tree.replay_eq cutoff tree [batch]
  rw [List.flatten_singleton] at hnext
  refine ⟨g, hsound, ?_⟩
  rw [hnext, (h.reviseTasks cutoff batch).1.find?_listing, hget]
  rfl

/-- **When a batch that does not contradict itself has been merged**, none of
it is news any more. -/
theorem Tree.Sound.isNews_next {tree : Tree} (h : tree.Sound) {batch : List Task}
    (hbatch : Consistent cutoff batch) {t : Task} (ht : t ∈ batch) :
    ((merge cutoff).next tree batch).isNews cutoff t = false := by
  obtain ⟨g, hg, hlisted⟩ := h.find?_listing_next cutoff ht
  rw [Tree.isNews, hlisted, List.any_eq_false]
  intro p hp
  have hentry : (t, p) ∈ entriesOf batch t.key :=
    List.mem_flatMap.2 ⟨t, List.mem_filter.2 ⟨ht, by simp⟩, List.mem_map_of_mem hp⟩
  obtain ⟨t', records, hfound, hrecords⟩ := Group.find?_told cutoff hg hentry
  rw [Process.isNews, hfound, Bool.not_eq_true, List.any_eq_false]
  intro s hs hnews
  obtain ⟨hsurvives, hnone⟩ := Bool.and_eq_true_iff.1 hnews
  have hsurvivor : (t, s) ∈ survivors cutoff batch t.key p.transformation :=
    mem_survivors.2 ⟨⟨ht, rfl⟩, ⟨p, hp, rfl, hs⟩, hsurvives⟩
  obtain ⟨held, hheld, heq⟩ := hbatch.exists_held records hsurvivor
  rw [hrecords, List.all_eq_true] at hnone
  have hother := hnone held hheld
  rw [heq] at hother
  cases hother

/-- **What the merge of ETL statistics tells of a sound tree.** -/
theorem Tree.Sound.tells_merge {tree : Tree} (h : tree.Sound) :
    (merge cutoff).Tells Tree.listing (Consistent cutoff) tree := by
  refine (merge_candid cutoff).tells h.changed_ingest (fun tree' hlisting => ?_)
    (fun batch hbatch t ht => h.isNews_next hbatch ht) fun batch => h.consistent
  funext t
  rw [Tree.isNews, Tree.isNews, hlisting]

end Etl

end Telemetry
