import Telemetry.Proofs.Log.Tail
import Telemetry.Proofs.Merge.Sifting
/-!
# Log — lines that leave no trace

A line of which the time cannot be read, or is not past the cutoff, might as
well not have come: it is passed over before it is held against the newest time,
and leaves that as it is. A tail without a cutoff that is sent the other lines
alone is the same tail (`merge_sifts`), and all it holds is past the cutoff
(`Tail.past_replay`). Only the line without a readable time is reported.
-/

namespace Telemetry

namespace Log

variable (cutoff : Option Time.Instant)

/-- Whether a line leaves a trace: its time can be read and is past the
cutoff. -/
def Entry.survives (e : Entry) : Bool :=
  (Time.Instant.ofStamp? e.time).any fun t => cutoff.all fun c => decide (c < t)

/-- A line is reported if its time cannot be read. -/
def Entry.skips (e : Entry) : List Skip :=
  if (Time.Instant.ofStamp? e.time).isNone then [⟨⟨"Time", e.time⟩⟩] else []

variable {newest : Option Time.Instant}

/-- A line that does not survive changes nothing. -/
theorem Tail.absorb_agrees_unchanged (tail : Tail) {e : Entry} (h : e.survives cutoff = false) :
    (tail.absorb cutoff newest e).Agrees (.unchanged tail) := by
  unfold Entry.survives at h
  unfold absorb
  cases ht : Time.Instant.ofStamp? e.time with
  | none => exact ⟨rfl, rfl⟩
  | some t =>
    have hold : t.past cutoff = false := by
      rw [Time.Instant.past_eq_all]
      simpa [ht] using h
    simp [hold, Ingestion.Agrees]

/-- A line that survives is taken in as if there were no cutoff. -/
theorem Tail.absorb_of_survives (tail : Tail) {e : Entry} (h : e.survives cutoff = true) :
    tail.absorb cutoff newest e = tail.absorb none newest e := by
  unfold Entry.survives at h
  unfold absorb
  cases ht : Time.Instant.ofStamp? e.time with
  | none => rfl
  | some t =>
    have hpast : t.past cutoff = true := by
      rw [Time.Instant.past_eq_all]
      simpa [ht] using h
    have hnone : t.past none = true := rfl
    simp only [hpast, hnone]

/-- What is reported of a line is the time that cannot be read. -/
theorem Tail.skipped_absorb (tail : Tail) (e : Entry) :
    (tail.absorb cutoff newest e).skipped = e.skips := by
  unfold absorb Entry.skips
  cases Time.Instant.ofStamp? e.time with
  | none => rfl
  | some t =>
    dsimp only
    split <;> rfl

/-- What is reported of a batch. -/
theorem skipped_ingest (tail : Tail) (batch : List Entry) :
    ((merge cutoff).ingest tail batch).skipped = batch.flatMap Entry.skips :=
  Ingestion.skipped_each (P := fun _ => True)
    (fun tail e _ => ⟨tail.skipped_absorb cutoff e, trivial⟩) trivial batch

/-- Nothing is reported of a line that survives. -/
theorem Entry.skips_of_survives {e : Entry} (h : e.survives cutoff = true) : e.skips = [] := by
  unfold Entry.survives at h
  unfold Entry.skips
  cases ht : Time.Instant.ofStamp? e.time with
  | none => simp [ht] at h
  | some t => rfl

/-- **The merge of log lines sifts the lines that survive.** -/
theorem merge_sifts (batches : List (List Entry)) :
    (merge cutoff).Sifts (merge none) (List.filter (·.survives cutoff)) Entry.skips batches := by
  have hinitial : (merge cutoff).initial = (merge none).initial := rfl
  refine .of_agrees hinitial (fun tail batch => ?_) fun batch => ?_
  · refine Ingestion.agrees_each_filter (fun t e he => ?_) (fun t e he => ?_) tail batch
    · exact t.absorb_agrees_unchanged cutoff he
    · rw [t.absorb_of_survives cutoff he]
      exact ⟨rfl, rfl⟩
  · refine ⟨skipped_ingest cutoff _ batch, ?_⟩
    rw [skipped_ingest]
    exact List.flatMap_eq_nil_iff.2 fun e he =>
      Entry.skips_of_survives cutoff (List.mem_filter.1 he).2

/-! ## What is held -/

/-- Nothing is held that is not past the cutoff. -/
def Tail.Past (tail : Tail) : Prop := ∀ r ∈ tail.records.toList, r.time.past cutoff = true

variable {cutoff}

/-- A line that leaves a record is past the cutoff. -/
theorem Entry.past_of_record? {e : Entry} {r : Record} (h : e.record? cutoff = some r) :
    r.time.past cutoff = true := by
  unfold record? at h
  split at h
  · split at h
    · next hpast => exact Option.some.inj h ▸ hpast
    · cases h
  · cases h

theorem Tail.Past.absorb {tail : Tail} (h : tail.Past cutoff) (e : Entry) :
    (tail.absorb cutoff newest e).tree.Past cutoff := by
  rw [tree_absorb]
  cases hr : e.record? cutoff with
  | none => exact h
  | some r =>
    dsimp only
    split
    · exact h
    · intro r' hr'
      rw [toList_push, List.mem_append, List.mem_singleton] at hr'
      rcases hr' with hr' | rfl
      · exact h r' hr'
      · exact Entry.past_of_record? hr

variable (cutoff)

/-- **Nothing is held that is not past the cutoff**, whatever comes. -/
theorem Tail.past_replay (batches : List (List Entry)) :
    ((merge cutoff).replay (merge cutoff).initial batches).Past cutoff := by
  have hinitial : (merge cutoff).initial.Past cutoff := fun r hr => by
    simp [merge, empty] at hr
  refine List.foldlRecOn batches _ hinitial fun tail htail batch _ => ?_
  exact Ingestion.each_induction htail fun tail e _ h => h.absorb e

end Log

end Telemetry
