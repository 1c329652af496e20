import Telemetry.Proofs.Etl.Reference
/-!
# Etl — a tail that is sent again

After a reconnect a server may send again the last batches it has sent, or
all of them. The tree they come into already holds them, and it is the same
tree afterwards: every group, every record with all that is derived from it,
and every index (`Tree.replay_drop`).

This is not because what is sent again does nothing. If a run has been sent
in two versions, the earlier one takes the place of the later one again, and
gives way to it again. So the argument goes from the records of one number,
where it is `Record.entry_renew_twice`, through the entries of one
transformation and the tasks of one group up to the tree; on each level the
items that come again are compared key by key.
-/

namespace Telemetry

namespace Etl

open Catalog

variable (cutoff : Option Time.Instant)

/-- **Entries that come again** leave their transformation as they left it
before. -/
theorem Transformation.entry_told_twice {o : Option Transformation} (ho : ∀ t ∈ o, t.Distinct)
    (entries : List (Task × Process)) :
    entry (Transformation.told cutoff) (entry (Transformation.told cutoff) o entries) entries =
      entry (Transformation.told cutoff) o entries := by
  by_cases hne : entries = []
  · rw [hne]
    rfl
  obtain ⟨t, ht, hstart⟩ := exists_start cutoff ho hne
  obtain ⟨t', ht', hname', hdistinct', hlist'⟩ := entry_told cutoff ht entries
  obtain ⟨t'', ht'', hname'', -, hlist''⟩ := entry_told cutoff hdistinct' entries
  have hrecords : t''.records = t'.records := by
    refine Array.toList_inj.1 ?_
    rw [hlist'', hlist']
    exact gather_gather (fun r o => Record.id_renew) ht fun k => Record.entry_renew_twice _ _
  have hsame : t'' = t' := by
    cases t'
    cases t''
    exact Transformation.mk.injEq .. ▸ ⟨hname'', hrecords⟩
  rw [hstart, ht', ht'', hsame]

/-- **Tasks that come again** leave their group as they left it before. -/
theorem Group.entry_told_twice {o : Option Group} {k : TaskKey} (hk : ∀ g ∈ o, g.key = k)
    (hs : ∀ g ∈ o, g.Sound) {tasks : List Task} (htasks : ∀ t ∈ tasks, t.key = k) :
    entry (Group.told cutoff) (entry (Group.told cutoff) o tasks) tasks =
      entry (Group.told cutoff) o tasks := by
  by_cases hne : tasks = []
  · rw [hne]
    rfl
  obtain ⟨g, hg, hsound, hstart⟩ := exists_start cutoff hk hs hne htasks
  have hkeys : ∀ t ∈ tasks, g.key = t.key := fun t ht => hg.trans (htasks t ht).symm
  let entries := tasks.flatMap Task.entries
  have htransformations : reviseEntries cutoff (reviseEntries cutoff g.transformations entries)
      entries = reviseEntries cutoff g.transformations entries := by
    refine hsound.indexed.reviseAll_reviseAll (fun e o => Transformation.name_told cutoff)
      fun name => Transformation.entry_told_twice cutoff (fun t ht => ?_) _
    exact (hsound.of_get? ht).2
  rw [hstart, entry_told cutoff hkeys, entry_told cutoff (by exact hkeys)]
  exact congrArg (fun c => some { g with transformations := c }) htransformations

/-- **Batches that come again** leave a sound tree as they left it before. -/
theorem Tree.Sound.replay_replay {tree : Tree} (h : tree.Sound) (batches : List (List Task)) :
    (merge cutoff).replay ((merge cutoff).replay tree batches) batches =
      (merge cutoff).replay tree batches := by
  rw [Tree.replay_eq, Tree.replay_eq]
  refine congrArg Tree.mk ?_
  refine h.indexed.reviseAll_reviseAll (fun t o => Group.key_told cutoff) fun k => ?_
  refine Group.entry_told_twice cutoff (k := k) (fun g hg => (h.of_get? hg).1)
    (fun g hg => (h.of_get? hg).2) fun t ht => ?_
  simpa using (List.mem_filter.1 ht).2

/-- **A tail sent again leaves the tree alone**, however far back it goes:
after any batches, to merge the last of them once more, from some place on,
gives the tree there was. So does a batch sent twice in a row. -/
theorem Tree.replay_drop (cutoff : Option Time.Instant) (history : List (List Task)) :
    let tree := (merge cutoff).replay (merge cutoff).initial history
    (∀ n, (merge cutoff).replay tree (history.drop n) = tree) ∧
      ∀ batch, (merge cutoff).next ((merge cutoff).next tree batch) batch =
        (merge cutoff).next tree batch := by
  intro tree
  have hsound : ∀ batches, ((merge cutoff).replay (merge cutoff).initial batches).Sound :=
    fun batches => Tree.sound_empty.replay cutoff batches
  refine ⟨fun n => ?_, fun batch => (hsound history).replay_replay cutoff [batch]⟩
  have hsplit : tree =
      (merge cutoff).replay ((merge cutoff).replay (merge cutoff).initial (history.take n))
        (history.drop n) := by
    rw [← Merge.replay_append, List.take_append_drop]
  rw [hsplit]
  exact (hsound (history.take n)).replay_replay cutoff (history.drop n)

end Etl

end Telemetry
