import Telemetry.Proofs.Log.Tail
/-!
# Log — lines that are news

A line is news to a tail that would put it at the end. Since nothing is taken
out of a tail, a batch is said to change it exactly if it does
(`Tail.Dated.tells_merge`): and once a batch has been merged, none of its lines
is news any more, for a line that was passed over is older than the newest, and
a line that was put at the end is as old, or held.
-/

namespace Telemetry

namespace Log

variable {cutoff newest : Option Time.Instant} {tail : Tail}

namespace Tail

/-- **A line is news** to a tail if it leaves a record, and not that of a line
that may have been sent before. -/
def isNews (cutoff : Option Time.Instant) (tail : Tail) (e : Entry) : Bool :=
  (e.record? cutoff).any fun r => !isRepeat tail.newest tail r

/-- A line that is not said to change a tail leaves no trace. -/
theorem tree_absorb_of_unchanged (tail : Tail) (e : Entry)
    (h : (tail.absorb cutoff newest e).changed = false) :
    (tail.absorb cutoff newest e).tree = tail := by
  revert h
  unfold absorb
  split
  · exact fun _ => rfl
  · split
    · exact fun _ => rfl
    · intro hmoved
      cases hmoved

/-- A line is said to change a tail that would put it at the end. -/
theorem changed_absorb (tail : Tail) (e : Entry) :
    (tail.absorb cutoff newest e).changed =
      (e.record? cutoff).any fun r => !isRepeat newest tail r := by
  unfold absorb Entry.record?
  cases Time.Instant.ofStamp? e.time with
  | none => rfl
  | some t =>
    by_cases hp : t.past cutoff <;> by_cases hr : isRepeat newest tail ⟨e, t⟩ <;>
      simp [hp, hr, Ingestion.unchanged, Ingestion.moved]

/-- Nothing is taken out of a tail. -/
theorem mem_absorb {r : Record} (h : r ∈ tail.records.toList) (e : Entry) :
    r ∈ (tail.absorb cutoff newest e).tree.records.toList := by
  rw [tree_absorb]
  cases e.record? cutoff with
  | none => exact h
  | some r' =>
    dsimp only
    split
    · exact h
    · rw [toList_push]
      exact List.mem_append_left _ h

theorem mem_each_absorb {r : Record} (h : r ∈ tail.records.toList) (batch : List Entry) :
    r ∈ (Ingestion.each (absorb cutoff newest) tail batch).tree.records.toList :=
  Ingestion.each_induction (P := fun tail : Tail => r ∈ tail.records.toList) h
    fun _ e _ hmem => mem_absorb hmem e

/-- **What becomes of a line of a batch**: the record it leaves is held after
the batch, unless it is older than the newest before the batch. -/
theorem held_or_older (newest : Option Time.Instant) (tail : Tail) {batch : List Entry} {e : Entry}
    (he : e ∈ batch) {r : Record} (hr : e.record? cutoff = some r) :
    r ∈ (Ingestion.each (absorb cutoff newest) tail batch).tree.records.toList ∨
      ∃ n, newest = some n ∧ r.time < n := by
  induction batch generalizing tail with
  | nil => cases he
  | cons e' rest ih =>
    rcases List.mem_cons.1 he with rfl | he
    · have hfirst : r ∈ (tail.absorb cutoff newest e).tree.records.toList ∨
          ∃ n, newest = some n ∧ r.time < n := by
        rw [tree_absorb, hr]
        dsimp only
        split
        · -- a repeat is older than the newest, or held already
          next hrepeat =>
          obtain ⟨n, hn, hlt | ⟨-, hheld⟩⟩ := isRepeat_iff.1 hrepeat
          · exact .inr ⟨n, hn, hlt⟩
          · exact .inl hheld
        · exact .inl (by simp [toList_push])
      exact hfirst.imp_left fun hmem => mem_each_absorb hmem rest
    · exact ih _ he

end Tail

/-- **The merge of log lines is candid.** -/
theorem merge_candid (cutoff : Option Time.Instant) : (merge cutoff).Candid := fun _ _ h =>
  Ingestion.tree_each_of_unchanged Tail.tree_absorb_of_unchanged h

namespace Tail

/-- **A batch is said to change a tail to which it brings news.** -/
theorem changed_ingest (tail : Tail) (batch : List Entry) :
    ((merge cutoff).ingest tail batch).changed = batch.any (tail.isNews cutoff) := by
  change (Ingestion.each (absorb cutoff tail.newest) tail batch).changed = _
  rw [Ingestion.changed_each tree_absorb_of_unchanged]
  exact congrArg batch.any (funext fun e => changed_absorb tail e)

/-- The newest time stays the greatest whatever comes. -/
theorem Dated.next (h : tail.Dated) (batch : List Entry) : ((merge cutoff).next tail batch).Dated :=
  Ingestion.each_induction h fun _ e _ hdated => hdated.absorb e

theorem Dated.replay (h : tail.Dated) (batches : List (List Entry)) :
    ((merge cutoff).replay tail batches).Dated :=
  List.foldlRecOn batches _ h fun _ hdated batch _ => hdated.next batch

/-- The newest time never goes back. -/
theorem Dated.newest_next (h : tail.Dated) {n : Time.Instant} (hn : tail.newest = some n)
    (batch : List Entry) : ∃ n', ((merge cutoff).next tail batch).newest = some n' ∧ n ≤ n' := by
  obtain ⟨r, hr, rfl⟩ := h.attained n hn
  exact (h.next batch).bound r (mem_each_absorb hr batch)

/-- A line is no news if it leaves no record, or a record that is older than the
newest, or as old and held. -/
theorem isNews_eq_false_iff {e : Entry} :
    tail.isNews cutoff e = false ↔ ∀ r, e.record? cutoff = some r →
      ∃ n, tail.newest = some n ∧ (r.time < n ∨ r.time = n ∧ r ∈ tail.records.toList) := by
  unfold isNews
  cases e.record? cutoff with
  | none => simp
  | some r => simp [isRepeat_iff]

/-- When a batch has been merged, none of its lines is news any more. -/
theorem Dated.isNews_next (h : tail.Dated) {batch : List Entry} {e : Entry} (he : e ∈ batch) :
    ((merge cutoff).next tail batch).isNews cutoff e = false := by
  rw [isNews_eq_false_iff]
  intro r hr
  rcases held_or_older tail.newest tail he hr with hheld | ⟨n, hn, hlt⟩
  · obtain ⟨n, hn, hle⟩ := (h.next batch).bound r hheld
    exact ⟨n, hn, (lt_or_eq_of_le hle).imp_right fun heq => ⟨heq, hheld⟩⟩
  · -- older than what was newest before, it is older than what is newest now
    obtain ⟨n', hn', hle⟩ := h.newest_next hn batch
    exact ⟨n', hn', .inl (lt_of_lt_of_le hlt hle)⟩

/-- **What the merge of log lines tells of a tail**: no batch can contradict
itself. -/
theorem Dated.tells_merge (h : tail.Dated) : (merge cutoff).Tells id (fun _ => True) tail :=
  (merge_candid cutoff).tells (changed_ingest tail) (fun _ hsame => congrArg (isNews cutoff) hsame)
    (fun _ _ _ he => h.isNews_next he) fun _ _ => trivial

end Tail

end Log

end Telemetry
