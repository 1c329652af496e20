import Telemetry.Node.Roster
import Telemetry.Proofs.Catalog.Revision
import Telemetry.Proofs.Merge
/-!
# Node — reports that come again

To take in a report is to put it in the place of the one its node has: a
report that is held already is not put, which comes to the same
(`Roster.tree_absorb`). So a roster holds the last report on each node, and
reports sent again leave it as they left it before (`Roster.replay_replay`).

A report is news to a roster that does not hold it. A batch is said to change
the roster if some report in it is news, though that report may give way to
another one of the same batch. So a batch with two different reports on one
node is always said to change the roster, also when it comes again; any other
batch is said to do so exactly if it does (`Roster.Sound.tells_merge`).
-/

namespace Telemetry

namespace Node

open Catalog

variable {roster : Roster}

/-! ## The last report counts -/

/-- The report a node has after another one: the latest. -/
def Status.renew (s : Status) (_ : Option Status) : Status := s

/-- **What a node has after some reports** is the last of them, or what it
had before. -/
theorem Status.entry_renew (o : Option Status) (reports : List Status) :
    entry Status.renew o reports = reports.getLast?.or o := by
  cases reports using List.reverseRecOn with
  | nil => rfl
  | append_singleton reports s =>
    rw [entry_append, List.getLast?_concat]
    rfl

theorem Status.nodeTag_renew (s : Status) (o : Option Status)
    (_ : ∀ held ∈ o, held.nodeTag = s.nodeTag) : (s.renew o).nodeTag = s.nodeTag := rfl

/-- The reports held after some more of them, with their index. -/
abbrev reviseReports (c : Catalog String Status) (reports : List Status) : Catalog String Status :=
  c.reviseAll Status.nodeTag Status.renew reports

/-- The index of a roster is right. -/
def Roster.Sound (roster : Roster) : Prop := roster.nodes.Indexed Status.nodeTag

theorem Roster.sound_empty : Roster.empty.Sound := indexed_empty

/-- A report that is not said to change a roster is held already. -/
theorem Roster.tree_absorb_of_unchanged (s : Status) (h : (roster.absorb s).changed = false) :
    (roster.absorb s).tree = roster := by
  revert h
  unfold Roster.absorb
  split
  · split
    · exact fun _ => rfl
    · intro hmoved
      cases hmoved
  · intro hmoved
    cases hmoved

/-- **A report comes into a roster** and takes the place of the one its node
has. -/
theorem Roster.tree_absorb (h : roster.Sound) (s : Status) :
    (roster.absorb s).tree = ⟨reviseReports roster.nodes [s]⟩ := by
  change _ = Roster.mk (roster.nodes.put s.nodeTag s)
  unfold Roster.absorb
  cases hget : roster.nodes.get? s.nodeTag with
  | none =>
    rw [h.put_eq_push hget]
    rfl
  | some held =>
    dsimp only
    split
    · next heq =>
      rw [put_get? (hget.trans (congrArg some heq))]
      rfl
    · rfl

/-- **Reports leave a roster sound.** -/
theorem Roster.Sound.reviseReports (h : roster.Sound) (reports : List Status) :
    Roster.Sound ⟨Node.reviseReports roster.nodes reports⟩ :=
  (h.reviseAll Status.nodeTag_renew reports).1

/-- **Batches come into a roster** as the reports in them. -/
theorem Roster.replay_eq (h : roster.Sound) (batches : List (List Status)) :
    merge.replay roster batches = ⟨reviseReports roster.nodes batches.flatten⟩ := by
  rw [Merge.replay_eq_foldl (m := merge) rfl]
  induction batches.flatten using List.reverseRecOn with
  | nil => rfl
  | append_singleton reports s ih =>
    rw [List.foldl_append, ih]
    refine (tree_absorb (h.reviseReports reports) s).trans (congrArg Roster.mk ?_)
    exact (reviseAll_append roster.nodes reports [s]).symm

/-- Batches leave a roster sound. -/
theorem Roster.Sound.replay (h : roster.Sound) (batches : List (List Status)) :
    (merge.replay roster batches).Sound := by
  rw [replay_eq h]
  exact h.reviseReports batches.flatten

/-- **After any batches** a node has the last report of them on it, or what it
had before. -/
theorem Roster.Sound.node?_replay (h : roster.Sound) (batches : List (List Status))
    (tag : String) :
    (merge.replay roster batches).node? tag =
      (batches.flatten.filter (·.nodeTag == tag)).getLast?.or (roster.node? tag) := by
  rw [replay_eq h, ← Status.entry_renew]
  exact h.get?_reviseAll Status.nodeTag_renew batches.flatten tag

/-- **Batches that come again** leave a roster as they left it before. -/
theorem Roster.replay_replay (h : roster.Sound) (batches : List (List Status)) :
    merge.replay (merge.replay roster batches) batches = merge.replay roster batches := by
  rw [replay_eq (h.replay batches), replay_eq h]
  refine congrArg Roster.mk ?_
  refine h.reviseAll_reviseAll Status.nodeTag_renew fun tag => ?_
  simp only [Status.entry_renew]
  cases (batches.flatten.filter (·.nodeTag == tag)).getLast? <;> rfl

/-! ## News -/

/-- A report is news to a roster that does not hold it. -/
def Roster.isNews (roster : Roster) (s : Status) : Bool := !roster.rows.contains s

/-- A roster holds a report if its node has it. -/
theorem Roster.Sound.isNews_eq_false_iff (h : roster.Sound) {s : Status} :
    roster.isNews s = false ↔ roster.node? s.nodeTag = some s := by
  rw [isNews, Bool.not_eq_false', List.contains_iff_mem]
  exact h.mem_toList_iff

/-- **A report is said to change a roster to which it is news.** -/
theorem Roster.Sound.changed_absorb (h : roster.Sound) (s : Status) :
    (roster.absorb s).changed = roster.isNews s := by
  have hheld : (roster.absorb s).changed = false ↔ roster.node? s.nodeTag = some s := by
    unfold Roster.absorb node?
    cases roster.nodes.get? s.nodeTag with
    | none => simp [Ingestion.moved]
    | some held =>
      by_cases heq : held = s
      · simp [heq, Ingestion.unchanged]
      · simp [heq, Ingestion.moved]
  rw [Bool.eq_iff_iff, ← not_iff_not, Bool.not_eq_true, Bool.not_eq_true, hheld,
    h.isNews_eq_false_iff]

/-- **The merge of status reports is candid**: a report that is passed over
is held already. -/
theorem merge_candid : merge.Candid := fun _ _ h =>
  Ingestion.tree_each_of_unchanged (fun _ => Roster.tree_absorb_of_unchanged) h

/-- **A batch is said to change a roster to which it brings news.** -/
theorem Roster.Sound.changed_ingest (h : roster.Sound) (batch : List Status) :
    (merge.ingest roster batch).changed = batch.any roster.isNews := by
  change (Ingestion.each Roster.absorb roster batch).changed = _
  rw [Ingestion.changed_each (fun _ => Roster.tree_absorb_of_unchanged)]
  exact congrArg batch.any (funext h.changed_absorb)

/-- A batch does not contradict itself if all its reports on one node are the
same. -/
def Consistent (batch : List Status) : Prop :=
  ∀ s ∈ batch, ∀ s' ∈ batch, s.nodeTag = s'.nodeTag → s = s'

/-- A batch of which nothing is news does not contradict itself: its reports
are all held, and no two on one node are. -/
theorem Roster.Sound.consistent (h : roster.Sound) {batch : List Status}
    (hheld : ∀ s ∈ batch, roster.isNews s = false) : Consistent batch := by
  intro s hs s' hs' htag
  have hnode := h.isNews_eq_false_iff.1 (hheld s hs)
  have hnode' := h.isNews_eq_false_iff.1 (hheld s' hs')
  rw [htag, hnode'] at hnode
  exact (Option.some.inj hnode).symm

/-- When a batch that does not contradict itself has been merged, none of it
is news any more. -/
theorem Roster.Sound.isNews_next (h : roster.Sound) {batch : List Status}
    (hbatch : Consistent batch) {s : Status} (hs : s ∈ batch) :
    (merge.next roster batch).isNews s = false := by
  have hafter : (merge.next roster batch).Sound := h.replay [batch]
  have hnode : (merge.next roster batch).node? s.nodeTag =
      ([batch].flatten.filter (·.nodeTag == s.nodeTag)).getLast?.or (roster.node? s.nodeTag) :=
    h.node?_replay [batch] s.nodeTag
  have hmem : s ∈ batch.filter (·.nodeTag == s.nodeTag) := List.mem_filter.2 ⟨hs, by simp⟩
  obtain ⟨last, hlast⟩ : ∃ last, (batch.filter (·.nodeTag == s.nodeTag)).getLast? = some last :=
    Option.isSome_iff_exists.1 (List.getLast?_isSome.2 (List.ne_nil_of_mem hmem))
  -- the last report on the node is the one in question, like any other of the batch
  obtain ⟨hlastmem, htag⟩ := List.mem_filter.1 (List.mem_of_getLast? hlast)
  have hsame : last = s := hbatch last hlastmem s hs (by simpa using htag)
  rw [hafter.isNews_eq_false_iff, hnode, List.flatten_singleton, hlast, hsame]
  rfl

/-- **What the merge of status reports tells of a sound roster.** -/
theorem Roster.Sound.tells_merge (h : roster.Sound) :
    merge.Tells Roster.rows Consistent roster := by
  refine merge_candid.tells h.changed_ingest (fun roster' hrows => ?_)
    (fun batch hbatch s hs => h.isNews_next hbatch hs) fun batch => h.consistent
  funext s
  rw [isNews, isNews, hrows]

end Node

end Telemetry
