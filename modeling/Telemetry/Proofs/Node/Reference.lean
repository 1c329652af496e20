import Telemetry.Proofs.Node.Roster
/-!
# Node — what the roster says of the reports that came

`Roster.Mirrors` says what a roster holds in terms of nothing but the
reports sent so far, in the order they came: one report on each node, the last
one, and the nodes in the order they were first reported in. Every roster a
merge reaches mirrors the reports of all its batches
(`Roster.mirrors_replay`), and its index is exact, also in the midst of a
batch. So neither the batches matter nor reports that are sent again: a roster
that has seen the end of a history stays as it is when that end comes again,
though on the way it goes back to older reports.
-/

namespace Telemetry

namespace Node

open Catalog

variable {roster : Roster}

/-- **What a roster says of the batches that came.** -/
structure Roster.Mirrors (history : List (List Status)) (roster : Roster) : Prop where
  /-- The nodes are those reported on, by first occurrence. -/
  tags : roster.rows.map Status.nodeTag = (history.flatten.map Status.nodeTag).eraseDups
  /-- What stands for a node is the last report on it. -/
  last : ∀ s ∈ roster.rows, (history.flatten.filter (·.nodeTag == s.nodeTag)).getLast? = some s
  /-- The index names a place for a tag exactly if the node there has it, -/
  index : roster.nodes.Exact Status.nodeTag
  /-- so a node is found where a search finds it. -/
  node : ∀ tag, roster.node? tag = roster.rows.find? (·.nodeTag == tag)
  /-- The index stays exact all through the next batch. -/
  midway : ∀ reports, (merge.next roster reports).nodes.Exact Status.nodeTag
  /-- The same reports in other batches come to the same, -/
  cut : ∀ batches, batches.flatten = history.flatten →
    merge.replay merge.initial batches = roster
  /-- and the last ones among them, in whatever batches they come again, change
  nothing. -/
  again : ∀ batches, batches.flatten <:+ history.flatten → merge.replay roster batches = roster

/-- The end of a list ends with what the list ends with. -/
theorem getLast?_or_of_suffix {α : Type} {xs ys : List α} (h : ys <:+ xs) :
    ys.getLast?.or xs.getLast? = xs.getLast? := by
  obtain ⟨front, rfl⟩ := h
  rw [List.getLast?_append]
  cases ys.getLast? <;> rfl

/-- **Reports that come again at the end** leave a roster as it is: on each
node the last of them is the last of all. -/
theorem Roster.replay_suffix {history batches : List (List Status)}
    (h : batches.flatten <:+ history.flatten) :
    merge.replay (merge.replay merge.initial history) batches =
      merge.replay merge.initial history := by
  have hsound : (merge.replay merge.initial history).Sound := sound_empty.replay history
  rw [replay_eq hsound]
  refine congrArg Roster.mk ?_
  refine (hsound.reviseAll_eq_self_iff Status.nodeTag_renew batches.flatten).2 fun tag => ?_
  have hnode : (merge.replay merge.initial history).nodes.get? tag =
      (history.flatten.filter (·.nodeTag == tag)).getLast?.or none :=
    (sound_empty.node?_replay history tag).trans (congrArg _ (get?_empty tag))
  rw [hnode, Option.or_none, Status.entry_renew]
  exact getLast?_or_of_suffix (h.filter _)

/-- **Every roster mirrors the batches that came**, whatever they are. -/
theorem Roster.mirrors_replay (history : List (List Status)) :
    Roster.Mirrors history (merge.replay merge.initial history) := by
  have hsound : (merge.replay merge.initial history).Sound := sound_empty.replay history
  have hroster : merge.replay merge.initial history =
      ⟨reviseReports Catalog.empty history.flatten⟩ := replay_eq sound_empty history
  have hrows : (merge.replay merge.initial history).rows =
      gather Status.nodeTag Status.nodeTag Status.renew [] history.flatten := by
    rw [hroster]
    exact (indexed_empty.reviseAll Status.nodeTag_renew history.flatten).2
  exact {
    tags := by rw [hrows, map_key_gather Status.nodeTag_renew]
    last := fun s hs => by
      rw [hrows] at hs
      rw [← foldl_of_mem_gather Status.nodeTag_renew hs, Status.entry_renew, Option.or_none]
    index := hsound.exact
    node := hsound.get?_eq_find?
    midway := fun reports => (hsound.replay [reports]).exact
    cut := fun batches hsame => by rw [hroster, ← hsame]; exact replay_eq sound_empty batches
    again := fun batches => replay_suffix }

end Node

end Telemetry
