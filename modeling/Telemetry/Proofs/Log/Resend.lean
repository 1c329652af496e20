import Mathlib.Data.List.Induction
import Telemetry.Proofs.Log.News
/-!
# Log — lines that were sent before

A tail keeps no list of the lines it was sent. It knows a line again by its time
and, at the newest time, by searching what it holds. That is enough, whatever
the times of the lines and the cuts between the batches: a line that is no news
to a tail is none to it ever again (`Tail.Dated.isNews_next_of_old`). So a batch
of lines that were all sent before leaves the very same tail, and is said to
(`resent_replay`).
-/

namespace Telemetry

namespace Log

variable {cutoff : Option Time.Instant} {tail : Tail}

namespace Tail

/-- **What is no news to a tail is none to it ever again**, whatever batch
comes. -/
theorem Dated.isNews_next_of_old (h : tail.Dated) {e : Entry} (he : tail.isNews cutoff e = false)
    (batch : List Entry) : ((merge cutoff).next tail batch).isNews cutoff e = false := by
  rw [isNews_eq_false_iff] at he ⊢
  intro r hr
  obtain ⟨n, hn, hold⟩ := he r hr
  obtain ⟨n', hn', hle⟩ := h.newest_next hn batch
  refine ⟨n', hn', ?_⟩
  rcases hold with hlt | ⟨rfl, hheld⟩
  · exact .inl (lt_of_lt_of_le hlt hle)
  · -- it is held still, and what was newest may be so no longer
    exact (lt_or_eq_of_le hle).imp_right fun heq => ⟨heq, mem_each_absorb hheld batch⟩

end Tail

/-- **No line sent so far is news.** -/
theorem isNews_replay (history : List (List Entry)) {e : Entry} (he : e ∈ history.flatten) :
    ((merge cutoff).replay (merge cutoff).initial history).isNews cutoff e = false := by
  induction history using List.reverseRecOn with
  | nil => cases he
  | append_singleton history batch ih =>
    rw [Merge.replay_append]
    have hdated : ((merge cutoff).replay (merge cutoff).initial history).Dated :=
      Tail.dated_empty.replay history
    rw [List.flatten_append, List.mem_append, List.flatten_singleton] at he
    rcases he with he | he
    · exact hdated.isNews_next_of_old (ih he) batch
    · exact hdated.isNews_next he

/-- **A batch of old lines is no batch at all.** Whatever batches a tail has been
sent, one more in which every line is one of theirs, in any order and any
number, leaves the very same tail, and is not said to change it. -/
theorem resent_replay (cutoff : Option Time.Instant) (history : List (List Entry))
    {batch : List Entry} (hbatch : ∀ e ∈ batch, ∃ earlier ∈ history, e ∈ earlier) :
    let tail := (merge cutoff).replay (merge cutoff).initial history
    ((merge cutoff).ingest tail batch).changed = false ∧ (merge cutoff).next tail batch = tail := by
  intro tail
  have hunchanged : ((merge cutoff).ingest tail batch).changed = false := by
    rw [Tail.changed_ingest, List.any_eq_false]
    intro e he
    rw [isNews_replay history (List.mem_flatten.2 (hbatch e he))]
    exact Bool.false_ne_true
  exact ⟨hunchanged, merge_candid cutoff tail batch hunchanged⟩

/-- A tail was sent lines out of order, one that has no time, and two of one time
that are the newest. All of them come again, the old ones among the new. -/
theorem resent_replay_shuffled :
    let line := fun time message => Entry.mk time "Info" "server" "main" message none
    let ready := line "2024-05-01T10:00:01Z" "ready"
    let boot := line "2024-05-01T10:00:00Z" "boot"
    let idle := line "soon" "idle"
    let bound := line "2024-05-01T10:00:03Z" "bound"
    let done := line "2024-05-01T10:00:03Z" "done"
    let history := [[ready, boot, idle], [bound, ready], [done, boot]]
    let batch := [done, idle, boot, bound, done, ready]
    let tail := (merge none).replay (merge none).initial history
    (∀ e ∈ batch, ∃ earlier ∈ history, e ∈ earlier) ∧
      (((merge none).ingest tail batch).changed = false ∧ (merge none).next tail batch = tail) ∧
      tail.records.toList.map (·.entry.message) = ["ready", "boot", "bound", "done"] := by
  intro line ready boot idle bound done history batch tail
  have hbatch : ∀ e ∈ batch, ∃ earlier ∈ history, e ∈ earlier := by decide
  exact ⟨hbatch, resent_replay none history hbatch, by decide +kernel⟩

end Log

end Telemetry
