import Telemetry.Feed.Basic
import Telemetry.Proofs.Etl.Lookup
import Telemetry.Proofs.Gate.Seeding
import Telemetry.Proofs.Log.Tail
/-!
# Feed — a feed that is seeded

A source is seeded with a snapshot that is fetched while live payloads are
coming in already. The gate before the tree is shut until the snapshot is there,
so the tree takes in the snapshot first (`Gate.run_seeding`), and what that comes
to depends on the feed. A log of which the snapshot has the beginning, and the
live batches a later slice, is held once as far as either of them goes. A record
of which a version came live shows the last of these, whatever the snapshot says
of it.
-/

namespace Telemetry

namespace Log

open Gate

variable {cutoff : Option Time.Instant} {lines : List Entry}

/-- No two lines leave the same record. -/
theorem Steady.nodup_kept (h : Steady lines) (n : Nat) : (kept cutoff (lines.take n)).Nodup := by
  have hnodup : (lines.take n).Nodup := h.nodup.sublist (List.take_sublist n lines)
  refine hnodup.filterMap fun e e' r he he' => ?_
  exact (Entry.of_record? he).1.symm.trans (Entry.of_record? he').1

/-- **A log seeded with its beginning**: the snapshot has the first `k` lines and
the live batches go on from one of these. -/
theorem Steady.holds_seeded (h : Steady lines) {k j n : Nat} (hj : j ≤ k)
    {live : List (List Entry)} (hlive : live.flatten = (lines.take n).drop j) :
    Holds cutoff lines (max k n)
      ((merge cutoff).replay (merge cutoff).initial (lines.take k :: live)) := by
  have hempty : Holds cutoff lines 0 (merge cutoff).initial := ⟨rfl, Tail.dated_empty⟩
  have hsnapshot : Holds cutoff lines k ((merge cutoff).next (merge cutoff).initial
      (lines.take k)) := by
    have hfirst := hempty.each_absorb h (Nat.le_refl 0) k
    rwa [List.drop_zero, Nat.zero_add, Nat.max_eq_right (Nat.zero_le k)] at hfirst
  exact hsnapshot.replay_slice h hj hlive

end Log

namespace Etl

open Catalog

variable (cutoff : Option Time.Instant)

/-- **What came last under a number is shown**, whatever was there before. -/
theorem Tree.Sound.exists_record?_replay {tree : Tree} (h : tree.Sound)
    {batches : List (List Task)} {k : TaskKey} {name : String} {id : Int} {last : Task × Stats}
    (hlast : (resends cutoff batches.flatten k name id).getLast? = some last) :
    ∃ r, ((merge cutoff).replay tree batches).record? k name id = some r ∧
      (r.stats == last.2) = true := by
  obtain ⟨earlier, hresends⟩ := List.getLast?_eq_some_iff.1 hlast
  have hmem : last ∈ resends cutoff batches.flatten k name id := by simp [hresends]
  obtain ⟨r, hr⟩ := exists_recordOf? hmem
  have hversions : versions cutoff batches.flatten k name id =
      earlier.filterMap (recordOf? cutoff) ++ [r] := by
    simp [versions, hresends, hr]
  refine ⟨r.renew (entry Record.renew (tree.record? k name id)
    (earlier.filterMap (recordOf? cutoff))), ?_, ?_⟩
  · rw [h.record?_replay cutoff, hversions, entry_append]
    rfl
  · rw [← stats_of_recordOf? hr]
    exact Record.stats_renew r _

end Etl

namespace Feed

open Gate

/-- **A merge is seeded first**: however an open gate before it came to be, and
wherever among the payloads of a pause the snapshot comes, the gate that is
opened again is the one it was, with a tree that has taken in the snapshot and
then the batches pushed. It has said so once. -/
def SeedsFirst {ι τ ω : Type} (m : Merge ι τ ω) : Prop :=
  ∀ (hears : Bool) (as : List (Action ι)), (run m hears as).shut = false →
    ∀ (before : List (Payload ι)) (snapshot : List ι) (after : List (Payload ι)),
      let course := as ++ seeding before snapshot after
      run m hears course =
        { run m hears as with
          tree := m.replay (run m hears as).tree (snapshot :: batches (before ++ after)) } ∧
      announced m hears course = announced m hears as ++ [(run m hears course).tree]

/-- **Seeding during a pause loses nothing**, whenever the snapshot arrives.
A tail that is seeded with the beginning of a log, of which the live batches are
a later slice, holds what the log leaves up to the end of both, once and in
order, and has told so once. A record shows the last version that came live. -/
theorem seeds_feeds :
    (∀ (ι τ ω : Type) (m : Merge ι τ ω), SeedsFirst m) ∧
    (∀ cutoff hears lines, Log.Steady lines → ∀ k j n before after, j ≤ k →
      (batches (before ++ after)).flatten = (lines.take n).drop j →
        let course := seeding before (lines.take k) after
        let tail := (run (logs.merge cutoff) hears course).tree
        tail.records.toList = Log.kept cutoff (lines.take (max k n)) ∧
          tail.records.toList.Nodup ∧ announced (logs.merge cutoff) hears course = [tail]) ∧
    (∀ cutoff hears as, (run (etl.merge cutoff) hears as).shut = false →
      ∀ before snapshot after k name id last,
        (Etl.resends cutoff (batches (before ++ after)).flatten k name id).getLast? = some last →
          ∃ r, (run (etl.merge cutoff) hears (as ++ seeding before snapshot after)).tree.record?
            k name id = some r ∧ (r.stats == last.2) = true) := by
  refine ⟨fun ι τ ω m hears as hopen before snapshot after =>
    run_seeding hopen before snapshot after, ?_, ?_⟩
  · intro cutoff hears lines hlines k j n before after hj hlive course tail
    have hfresh : (run (logs.merge cutoff) hears []).shut = false := rfl
    obtain ⟨hrun, hannounced⟩ := run_seeding hfresh before (lines.take k) after
    have hholds : Log.Holds cutoff lines (max k n) tail := by
      have htail : tail = (logs.merge cutoff).replay (logs.merge cutoff).initial
          (lines.take k :: batches (before ++ after)) := congrArg Gate.tree hrun
      rw [htail]
      exact hlines.holds_seeded hj hlive
    refine ⟨hholds.records, ?_, hannounced⟩
    rw [hholds.records]
    exact hlines.nodup_kept _
  · intro cutoff hears as hopen before snapshot after k name id last hlast
    have hsound : (run (etl.merge cutoff) hears as).tree.Sound := by
      rw [tree_run]
      exact Etl.Tree.sound_empty.replay cutoff _
    obtain ⟨hrun, -⟩ := run_seeding hopen before snapshot after
    rw [hrun]
    exact (hsound.replay cutoff [snapshot]).exists_record?_replay cutoff hlast

/-- A line comes live before the snapshot that has it too, and an older version
of a record than the snapshot has. -/
theorem seeds_feeds_overlapping :
    let line := fun time message => Log.Entry.mk time "Info" "server" "main" message none
    let ready := line "2024-05-01T10:00:01Z" "ready"
    let rest := [line "soon" "idle", line "2024-05-01T10:00:01Z" "bound"]
    let lines := line "2024-05-01T10:00:00Z" "boot" :: ready :: rest
    let before := [Payload.results [ready], .heartbeat]
    let after := [Payload.results rest]
    let course := seeding before (lines.take 2) after
    let tail := (run (logs.merge none) true course).tree
    let version := fun loaded => Etl.Stats.mk 1 "2024-05-01T10:00:00Z" none ⟨false, 0, 0⟩ [] []
      loaded 0 none none none none
    let task := fun loaded => Etl.Task.mk 7 "Orders" "Raven" none [⟨"Script", [version loaded]⟩]
    let tree := (run (etl.merge none) true (seeding [.results [task 1]] [task 2] [])).tree
    (Log.Steady lines ∧ (batches (before ++ after)).flatten = (lines.take 4).drop 1 ∧
      (tail.records.toList = Log.kept none (lines.take 4) ∧ tail.records.toList.Nodup ∧
        announced (logs.merge none) true course = [tail]) ∧
      tail.records.toList.map (·.entry.message) = ["boot", "ready", "bound"]) ∧
    (Etl.resends none [task 1] (task 1).key "Script" 1).getLast? = some (task 1, version 1) ∧
      ∃ r, tree.record? (task 1).key "Script" 1 = some r ∧ (r.stats == version 1) = true := by
  intro line ready rest lines before after course tail version task tree
  have hlines : Log.Steady lines := ⟨by decide, by decide +kernel⟩
  have hlive : (batches (before ++ after)).flatten = (lines.take 4).drop 1 := by decide
  have hsurvives : (version 1).survives none = true := by decide +kernel
  have htold : Etl.occurrences [task 1] (task 1).key "Script" = [(task 1, version 1)] := by
    simp [Etl.occurrences, Etl.entriesOf, Etl.Task.entries, task]
  have hlast : (Etl.resends none [task 1] (task 1).key "Script" 1).getLast? =
      some (task 1, version 1) := by
    simp only [Etl.resends, Etl.survivors, htold, List.filter_singleton, hsurvives, cond_true]
    rfl
  obtain ⟨-, hlog, hetl⟩ := seeds_feeds
  refine ⟨⟨hlines, hlive, hlog none true lines hlines 2 1 4 before after (by decide) hlive,
    by decide +kernel⟩, hlast, ?_⟩
  exact hetl none true [] rfl [.results [task 1]] [task 2] [] _ _ _ _ hlast

end Feed

end Telemetry
