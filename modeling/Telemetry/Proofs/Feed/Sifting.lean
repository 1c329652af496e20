import Telemetry.Feed.Basic
import Telemetry.Proofs.Etl.Sifting
import Telemetry.Proofs.Log.Sifting
/-!
# Feed — what is passed over leaves no trace

Two of the feeds pass over some of what comes: what is too old, and what has a
time stamp that cannot be read. They do so at different points, the one once a
record has been derived, the other before a line is held against the newest
time, and in both it comes to the same: the tree, and what is said of every
batch, is that of a feed without a cutoff to which nothing of the kind is sent.
-/

namespace Telemetry

namespace Feed

/-- **What is bad or old leaves no trace**, in the tree or in what is said of a
batch. What is bad is reported, in the order of the batch, and nothing else is. A
record stays in place while nothing but this comes under its number. -/
theorem sifts_feeds (cutoff : Option Time.Instant) :
    (∀ batches, (etl.merge cutoff).Sifts (etl.merge none) (List.map (Etl.Task.sift cutoff))
        Etl.Task.skips batches ∧
      let tree := (etl.merge cutoff).replay (etl.merge cutoff).initial batches
      tree.Past cutoff ∧ ∀ batch k name id, Etl.resends cutoff batch k name id = [] →
        ((etl.merge cutoff).next tree batch).record? k name id = tree.record? k name id) ∧
    (∀ batches, (logs.merge cutoff).Sifts (logs.merge none)
        (List.filter (Log.Entry.survives cutoff)) Log.Entry.skips batches ∧
      ((logs.merge cutoff).replay (logs.merge cutoff).initial batches).Past cutoff) := by
  refine ⟨fun batches => ?_, fun batches => ?_⟩
  · refine ⟨Etl.merge_sifts cutoff batches, Etl.Tree.past_replay cutoff batches, ?_⟩
    intro batch k name id hdropped
    have hsound : ((Etl.merge cutoff).replay (Etl.merge cutoff).initial batches).Sound :=
      Etl.Tree.sound_empty.replay cutoff batches
    exact hsound.record?_next_of_dropped cutoff hdropped
  · exact ⟨Log.merge_sifts cutoff batches, Log.Tail.past_replay cutoff batches⟩

end Feed

end Telemetry
