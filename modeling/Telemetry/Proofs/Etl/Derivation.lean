import Telemetry.Proofs.Etl.Lookup
import Telemetry.Proofs.Etl.News
/-!
# Etl — what the derived fields of a record owe to its run

The fields derived from a run are derived whenever the run comes, but a record
is only put in the place of another if its run is not equal to the one held. So
all that follows from the run alone is up to date, for equal runs derive it
alike; the destination follows from the task, and stays the one of the task that
told of the run when it last changed (`Record.Derived`).

That makes a difference for one kind of task only. A missing sub-kind and an
empty one make the same key, and the destination of a queue tells them apart
(`stale_destination`); any other two tasks of one key send their data to one
destination (`Task.destination_eq`).
-/

namespace Telemetry

namespace Etl

open Catalog

variable {cutoff : Option Time.Instant}

/-! ## Destinations of one key -/

/-- The destination of anything but a queue is that of its kind. -/
theorem Destination.derive_eq_of_ne {kind : String} (h : kind ≠ "Queue")
    (subKind subKind' : Option String) :
    Destination.derive kind subKind = Destination.derive kind subKind' := by
  unfold Destination.derive
  split
  case h_6 => exact absurd rfl h
  all_goals rfl

/-- **Tasks of one key have one destination**, unless they are queues without a
sub-kind. -/
theorem Task.destination_eq {t t' : Task} {k : TaskKey} (ht : t.key = k) (ht' : t'.key = k)
    (h : k.kind ≠ "Queue" ∨ k.subKind ≠ "") : t.destination = t'.destination := by
  have hkind : t.kind = t'.kind := congrArg TaskKey.kind (ht.trans ht'.symm)
  have hsub : t.subKind.getD "" = t'.subKind.getD "" :=
    congrArg TaskKey.subKind (ht.trans ht'.symm)
  rw [Task.destination, Task.destination, hkind]
  rcases h with hqueue | hbroker
  · have hne : t'.kind ≠ "Queue" := fun heq => hqueue (by rw [← ht', ← heq]; rfl)
    exact Destination.derive_eq_of_ne hne _ _
  · have hne : t.subKind.getD "" ≠ "" := fun heq => hbroker (by rw [← ht, ← heq]; rfl)
    -- a sub-kind that is not empty is there, and the key holds it
    cases hs : t.subKind with
    | none => simp [hs] at hne
    | some s =>
      cases hs' : t'.subKind with
      | none =>
        rw [hsub, hs'] at hne
        exact absurd rfl hne
      | some s' =>
        rw [hs, hs'] at hsub
        exact congrArg (fun s => Destination.derive t'.kind (some s)) hsub

/-! ## The last change -/

/-- **The record held is the one that brought the last change**: those that came
after it hold equal runs, and the one before it another. -/
theorem Record.split_of_entry_renew {rs : List Record} {r : Record}
    (h : entry Record.renew none rs = some r) :
    ∃ before since, rs = before ++ r :: since ∧ (∀ s ∈ since, (s.stats == r.stats) = true) ∧
      ∀ s ∈ before.getLast?, (s.stats == r.stats) = false := by
  refine entry_induction
    (P := fun rs r => ∃ before since, rs = before ++ r :: since ∧
      (∀ s ∈ since, (s.stats == r.stats) = true) ∧
      ∀ s ∈ before.getLast?, (s.stats == r.stats) = false)
    (fun x => ⟨[], [], rfl, by simp, by simp⟩) (fun rs x held ih => ?_) h
  obtain ⟨before, since, hsplit, hsince, hbefore⟩ := ih
  rw [Record.renew]
  split
  · -- the run is held: the change was made before
    next heq =>
    refine ⟨before, since ++ [x], by simp [hsplit], fun s hs => ?_, hbefore⟩
    rcases List.mem_append.1 hs with hs | hs
    · exact hsince s hs
    · rw [List.mem_singleton.1 hs]
      exact BEq.symm heq
  · -- the run is another: this is the change
    next hne =>
    refine ⟨rs, [], rfl, by simp, fun s hs => Bool.eq_false_iff.2 fun heq => hne ?_⟩
    have hheld : (held.stats == s.stats) = true := by
      rw [hsplit] at hs
      cases since using List.reverseRecOn with
      | nil =>
        rw [List.getLast?_concat] at hs
        rw [Option.some.inj hs]
        exact BEq.rfl
      | append_singleton since last =>
        rw [← List.cons_append, ← List.append_assoc, List.getLast?_concat] at hs
        rw [← Option.some.inj hs]
        exact BEq.symm (hsince last (by simp))
    exact BEq.trans hheld heq

/-- Where the versions part, the occurrences part. -/
theorem exists_resends_of_versions {tasks : List Task} {k : TaskKey} {name : String} {id : Int}
    {before since : List Record} {r : Record}
    (h : versions cutoff tasks k name id = before ++ r :: since) :
    ∃ earlier x later, resends cutoff tasks k name id = earlier ++ x :: later ∧
      recordOf? cutoff x = some r ∧ earlier.filterMap (recordOf? cutoff) = before ∧
        later.filterMap (recordOf? cutoff) = since := by
  obtain ⟨earlier, rest, hsplit, hearlier, hrest⟩ := List.filterMap_eq_append_iff.1 h
  obtain ⟨skipped, x, later, rfl, hskipped, hx, hlater⟩ := List.filterMap_eq_cons_iff.1 hrest
  -- every occurrence leaves a record, so that none was skipped
  cases skipped with
  | nil => exact ⟨earlier, x, later, hsplit, hx, hearlier, hlater⟩
  | cons y skipped =>
    have hy : y ∈ resends cutoff tasks k name id := by simp [hsplit]
    obtain ⟨ry, hry⟩ := exists_recordOf? hy
    rw [hskipped y List.mem_cons_self] at hry
    cases hry

/-! ## Derived fields -/

/-- **What a record owes to the occurrences of its run.** -/
structure Record.Derived (cutoff : Option Time.Instant) (tasks : List Task) (k : TaskKey)
    (name : String) (r : Record) : Prop where
  /-- Its run is equal to the last one that came, and all but its destination is
  derived from that one. -/
  fields : ∃ last, (resends cutoff tasks k name r.id).getLast? = some last ∧
    (r.stats == last.2) = true ∧
      ∀ d, Record.derive last.2 d = .ok { r with stats := last.2, destination := d }
  /-- The record as a whole, its destination with it, is derived from the
  occurrence that brought the last change: those after it are equal to it, the
  one before it is not. -/
  source : ∃ earlier x later, resends cutoff tasks k name r.id = earlier ++ x :: later ∧
    Record.derive x.2 x.1.destination = .ok r ∧ (∀ y ∈ later, (y.2 == x.2) = true) ∧
      ∀ y ∈ earlier.getLast?, (y.2 == x.2) = false
  /-- Its destination is that of the last task that told of it, unless the task is
  a queue without a sub-kind. -/
  destination : k.kind ≠ "Queue" ∨ k.subKind ≠ "" →
    ∀ last ∈ (resends cutoff tasks k name r.id).getLast?, r.destination = last.1.destination

/-- What is found of a number is derived from its occurrences. -/
theorem Record.derived_of_entry {tasks : List Task} {k : TaskKey} {name : String} {r : Record}
    (h : entry Record.renew none (versions cutoff tasks k name r.id) = some r) :
    r.Derived cutoff tasks k name := by
  obtain ⟨before, since, hversions, hsince, hbefore⟩ := Record.split_of_entry_renew h
  obtain ⟨earlier, x, later, hsplit, hx, rfl, rfl⟩ := exists_resends_of_versions hversions
  have hderive : Record.derive x.2 x.1.destination = .ok r := derive_of_recordOf? hx
  have hstats : r.stats = x.2 := stats_of_recordOf? hx
  have hmem : ∀ y ∈ earlier ++ x :: later, ∃ ry, recordOf? cutoff y = some ry := fun y hy =>
    exists_recordOf? (hsplit ▸ hy)
  have hlater : ∀ y ∈ later, (y.2 == x.2) = true := by
    intro y hy
    obtain ⟨ry, hry⟩ := hmem y (by simp [hy])
    have heq := hsince ry (List.mem_filterMap.2 ⟨y, hy, hry⟩)
    rwa [stats_of_recordOf? hry, hstats] at heq
  -- the last occurrence is this one, or one of those after it
  have hlast : ∀ last ∈ (earlier ++ x :: later).getLast?, (r.stats == last.2) = true := by
    intro last hlast
    rw [hstats]
    cases later using List.reverseRecOn with
    | nil =>
      rw [List.getLast?_concat] at hlast
      rw [Option.some.inj hlast]
      exact BEq.rfl
    | append_singleton later y =>
      rw [← List.cons_append, ← List.append_assoc, List.getLast?_concat] at hlast
      rw [← Option.some.inj hlast]
      exact BEq.symm (hlater y (by simp))
  refine ⟨?_, ⟨earlier, x, later, hsplit, hderive, hlater, fun y hy => ?_⟩,
    fun hkey last hl => ?_⟩
  · obtain ⟨last, hl⟩ : ∃ last, (earlier ++ x :: later).getLast? = some last :=
      Option.isSome_iff_exists.1 (by simp)
    rw [hsplit]
    refine ⟨last, hl, hlast last hl, fun d => ?_⟩
    rw [← hstats] at hderive
    exact Record.derive_congr (hlast last hl) hderive d
  · have hyl : y ∈ earlier := List.mem_of_getLast? hy
    obtain ⟨ry, hry⟩ := hmem y (by simp [hyl])
    have hlastkept : (earlier.filterMap (recordOf? cutoff)).getLast? = some ry := by
      obtain ⟨init, rfl⟩ := List.getLast?_eq_some_iff.1 hy
      simp [List.filterMap_append, hry]
    have hne := hbefore ry hlastkept
    rwa [stats_of_recordOf? hry, hstats] at hne
  · rw [(Record.of_derive hderive).2]
    have hkeys : ∀ y ∈ resends cutoff tasks k name r.id, y.1.key = k := fun y hy =>
      (mem_survivors.1 (List.mem_filter.1 hy).1).1.2
    exact Task.destination_eq (hkeys x (by simp [hsplit]))
      (hkeys last (List.mem_of_getLast? hl)) hkey

/-- **Every record held owes its derived fields to the last occurrence of its
run**, but for its destination: that one it owes to the last change of the
run. -/
theorem Tree.derived_replay (cutoff : Option Time.Instant) (batches : List (List Task)) :
    let tree := (merge cutoff).replay (merge cutoff).initial batches
    ∀ g ∈ tree.groups.toList, ∀ t ∈ g.transformations.toList, ∀ r ∈ t.records.toList,
      r.Derived cutoff batches.flatten g.key t.name := by
  intro tree g hg t ht r hr
  have hsound : tree.Sound := Tree.sound_empty.replay cutoff batches
  refine Record.derived_of_entry ?_
  rw [← Tree.record?_replay_initial]
  exact hsound.record?_of_mem hg ht hr

/-- **A record is fresh** if it is what its last occurrence would leave if it
came first, up to a run that is equal. -/
def Record.Fresh (cutoff : Option Time.Instant) (tasks : List Task) (k : TaskKey) (name : String)
    (r : Record) : Prop :=
  ∃ last, (resends cutoff tasks k name r.id).getLast? = some last ∧
    Record.derive last.2 last.1.destination = .ok { r with stats := last.2 }

/-- A run of a queue that is told first without a sub-kind and then with an empty
one: its record keeps the destination it had. -/
theorem stale_destination :
    let run := Stats.mk 1 "2024-05-01T10:00:00Z" none .zero [] [] 0 0 none none none none
    let task := fun subKind => Task.mk 7 "Orders" "Queue" subKind [⟨"Script", [run]⟩]
    let batches := [[task none], [task (some "")]]
    let tree := (merge none).replay (merge none).initial batches
    ∃ r, tree.record? ⟨"Queue", "Orders", ""⟩ "Script" 1 = some r ∧
      r.destination = .other "Queue" ∧
      ¬ r.Fresh none batches.flatten ⟨"Queue", "Orders", ""⟩ "Script" := by
  intro run task batches tree
  have hsurvives : run.survives none = true := by
    change (Time.Instant.ofStamp? "2024-05-01T10:00:00Z").any (fun _ => true) = true
    decide +kernel
  have hresends : ∀ id, id = 1 → resends none batches.flatten ⟨"Queue", "Orders", ""⟩ "Script" id =
      [(task none, run), (task (some ""), run)] := by
    rintro id rfl
    simp [resends, survivors, occurrences, entriesOf, Task.entries, Task.key, batches, task,
      hsurvives, run]
  obtain ⟨r, hr⟩ := Option.isSome_iff_exists.1 ((isSome_recordOf? (task none, run)).trans hsurvives)
  obtain ⟨r', hr'⟩ :=
    Option.isSome_iff_exists.1 ((isSome_recordOf? (task (some ""), run)).trans hsurvives)
  have hfound : tree.record? ⟨"Queue", "Orders", ""⟩ "Script" 1 = some r := by
    rw [Tree.record?_replay_initial, versions, hresends 1 rfl]
    simp [hr, hr', Record.renew, stats_of_recordOf? hr, stats_of_recordOf? hr']
  have hid : r.id = 1 := Tree.id_of_record? hfound
  have hdestination : r.destination = .other "Queue" :=
    (Record.of_derive (derive_of_recordOf? hr)).2
  refine ⟨r, hfound, hdestination, ?_⟩
  rintro ⟨last, hlast, hfresh⟩
  rw [hresends r.id hid] at hlast
  obtain rfl : last = (task (some ""), run) := (Option.some.inj hlast).symm
  have hother : r.destination = .other "" := (Record.of_derive hfresh).2
  rw [hdestination, Destination.other.injEq] at hother
  exact absurd hother (by decide)

end Etl

end Telemetry
