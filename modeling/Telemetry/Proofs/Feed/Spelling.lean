import Mathlib.Data.List.Forall2
import Telemetry.Proofs.Etl.Record
import Telemetry.Proofs.Log.News
import Telemetry.Proofs.Log.Sifting
import Telemetry.Proofs.Time.Spelling
/-!
# Feeds — how a server spells its times

What a merge compares are instants, never the texts of stamps. The newest time of
a tail is the greatest of all the times that came, whichever lines were passed over
as repeats (`Log.newest_replay`), so histories whose times are spelled otherwise
leave the same newest time, and a line stands to it as before. The last theorem,
`indifferent_spellings`, puts this together with the reading of stamps.
-/

namespace Telemetry

open Time

namespace Log

variable {cutoff newest : Option Instant} {tail : Tail}

/-! ## The newest time -/

/-- The times that lines bring, of those that can be read and are past the cutoff. -/
def times (cutoff : Option Instant) (lines : List Entry) : List Instant :=
  lines.filterMap fun e => (e.record? cutoff).map Record.time

/-- The newest of some times, after an earlier newest one. -/
def newestOf (newest : Option Instant) (ts : List Instant) : Option Instant :=
  ts.foldl (fun newest t => some (Tail.later newest t)) newest

/-- A line brings the newest time up to its own; one that is passed over as a
repeat is not newer anyway. -/
theorem newest_absorb (h : ∀ n ∈ newest, ∃ m ∈ tail.newest, n ≤ m) (e : Entry) :
    (tail.absorb cutoff newest e).tree.newest = newestOf tail.newest (times cutoff [e]) := by
  rw [Tail.tree_absorb]
  cases hr : e.record? cutoff with
  | none => simp [times, newestOf, hr]
  | some r =>
    have htimes : newestOf tail.newest (times cutoff [e]) = some (Tail.later tail.newest r.time) := by
      simp [times, newestOf, hr]
    rw [htimes]
    dsimp only
    split
    · next hrepeat =>
      obtain ⟨n, hn, hold⟩ := Tail.isRepeat_iff.1 hrepeat
      obtain ⟨m, hm, hle⟩ := h n hn
      have hr : r.time ≤ m := (hold.elim le_of_lt fun heq => heq.1.le).trans hle
      have hmax : Tail.later (some m) r.time = max m r.time := rfl
      rw [Option.mem_def.1 hm, hmax, max_eq_left hr]
    · rfl

/-- The newest time only goes up. -/
theorem le_newestOf {n m : Instant} (hm : m ∈ newest) (hle : n ≤ m) (ts : List Instant) :
    ∃ m' ∈ newestOf newest ts, n ≤ m' := by
  induction ts generalizing newest m with
  | nil => exact ⟨m, hm, hle⟩
  | cons t rest ih =>
    have hlater : max m t ∈ some (Tail.later newest t) := by
      rw [Option.mem_def.1 hm]
      rfl
    exact ih hlater (hle.trans (le_max_left m t))

/-- **A batch brings the newest time up to the newest of its own.** -/
theorem newest_next (cutoff : Option Instant) (tail : Tail) (batch : List Entry) :
    ((merge cutoff).next tail batch).newest = newestOf tail.newest (times cutoff batch) := by
  have hbatch : ∀ (batch : List Entry) (t : Tail), (∀ n ∈ tail.newest, ∃ m ∈ t.newest, n ≤ m) →
      (Ingestion.each (Tail.absorb cutoff tail.newest) t batch).tree.newest =
        newestOf t.newest (times cutoff batch) := by
    intro batch
    induction batch with
    | nil => exact fun t _ => rfl
    | cons e rest ih =>
      intro t ht
      have hfirst : (t.absorb cutoff tail.newest e).tree.newest =
          newestOf t.newest (times cutoff [e]) := newest_absorb ht e
      have hsplit : times cutoff (e :: rest) = times cutoff [e] ++ times cutoff rest :=
        List.filterMap_append (l := [e])
      have hrest := ih (t.absorb cutoff tail.newest e).tree fun n hn => by
        obtain ⟨m, hm, hle⟩ := ht n hn
        rw [hfirst]
        exact le_newestOf hm hle _
      rw [hsplit, newestOf, List.foldl_append, ← newestOf, ← newestOf, ← hfirst]
      exact hrest
  exact hbatch batch tail fun n hn => ⟨n, hn, le_rfl⟩

/-- **The newest time is the greatest of all the times that came.** -/
theorem newest_replay (cutoff : Option Instant) (tail : Tail) (batches : List (List Entry)) :
    ((merge cutoff).replay tail batches).newest =
      newestOf tail.newest (times cutoff batches.flatten) := by
  induction batches generalizing tail with
  | nil => rfl
  | cons batch rest ih =>
    have hsplit : times cutoff (batch :: rest).flatten =
        times cutoff batch ++ times cutoff rest.flatten := List.filterMap_append
    rw [hsplit, newestOf, List.foldl_append, ← newestOf, ← newestOf, ← newest_next]
    exact ih _

/-! ## Comparisons -/

/-- **How a line stands** to what came before its batch: not at all, if its time
cannot be read or is not past the cutoff; else as its time compares with the newest
one, if there is any. -/
def Tail.standing (cutoff : Option Instant) (tail : Tail) (e : Entry) : Option (Option Ordering) :=
  (e.record? cutoff).map fun r => tail.newest.map (compare r.time)

/-- **What is done with a line depends on how it stands**, and if it is as old as
the newest, on whether it is held. -/
theorem Tail.isNews_eq_standing (tail : Tail) (e : Entry) :
    tail.isNews cutoff e = match tail.standing cutoff e with
      | none | some (some .lt) => false
      | some (some .eq) => (e.record? cutoff).all fun r => !tail.holds r
      | some none | some (some .gt) => true := by
  unfold isNews standing
  cases e.record? cutoff with
  | none => rfl
  | some r =>
    cases tail.newest with
    | none => rfl
    | some n =>
      rcases lt_trichotomy r.time n with hlt | heq | hgt
      · simp [isRepeat, hlt, compare_lt_iff_lt.2 hlt]
      · simp [isRepeat, heq]
      · simp [isRepeat, not_lt_of_gt hgt, hgt.ne', compare_gt_iff_gt.2 hgt]

/-- Lines whose times say the same bring one time, or neither brings any. -/
theorem time_record?_of_alike {e e' : Entry} (h : Alike e.time e'.time) :
    (e.record? cutoff).map Record.time = (e'.record? cutoff).map Record.time := by
  unfold Entry.record?
  rw [h.ofStamp?_eq]
  cases Instant.ofStamp? e'.time with
  | none => rfl
  | some t =>
    dsimp only
    split <;> rfl

theorem times_of_alike {lines lines' : List Entry}
    (h : List.Forall₂ (fun e e' => Alike e.time e'.time) lines lines') :
    times cutoff lines = times cutoff lines' := by
  refine List.forall₂_eq_eq_eq ▸ List.rel_filterMap (fun e e' he => ?_) h
  rw [time_record?_of_alike he]
  cases (e'.record? cutoff).map Record.time with
  | none => exact .none
  | some t => exact .some rfl

/-- **The merge of log lines does not look at spellings.** -/
structure Indifferent (cutoff : Option Instant) : Prop where
  /-- Whether a line leaves a trace does not depend on the spelling of its time. -/
  survives : ∀ e e' : Entry, Alike e.time e'.time → e.survives cutoff = e'.survives cutoff
  /-- Nor does the newest time of a tail on those of all the lines that came. -/
  newest : ∀ batches batches',
    List.Forall₂ (List.Forall₂ fun e e' : Entry => Alike e.time e'.time) batches batches' →
    ((merge cutoff).replay (merge cutoff).initial batches).newest =
      ((merge cutoff).replay (merge cutoff).initial batches').newest
  /-- Whether a line is news depends on how it stands to the newest time, -/
  news : ∀ (tail : Tail) (e : Entry), tail.isNews cutoff e = match tail.standing cutoff e with
    | none | some (some .lt) => false
    | some (some .eq) => (e.record? cutoff).all fun r => !tail.holds r
    | some none | some (some .gt) => true
  /-- and that does not depend on spellings either. -/
  standing : ∀ batches batches',
    List.Forall₂ (List.Forall₂ fun e e' : Entry => Alike e.time e'.time) batches batches' →
    ∀ e e' : Entry, Alike e.time e'.time →
    ((merge cutoff).replay (merge cutoff).initial batches).standing cutoff e =
      ((merge cutoff).replay (merge cutoff).initial batches').standing cutoff e'

theorem indifferent (cutoff : Option Instant) : Indifferent cutoff := by
  have hnewest : ∀ batches batches',
      List.Forall₂ (List.Forall₂ fun e e' : Entry => Alike e.time e'.time) batches batches' →
      ((merge cutoff).replay (merge cutoff).initial batches).newest =
        ((merge cutoff).replay (merge cutoff).initial batches').newest := by
    intro batches batches' h
    rw [newest_replay, newest_replay, times_of_alike (List.rel_flatten h)]
  refine ⟨fun e e' he => ?_, hnewest, Tail.isNews_eq_standing, fun batches batches' h e e' he => ?_⟩
  · rw [Entry.survives, Entry.survives, he.ofStamp?_eq]
  · have htime : (e.record? cutoff).map Record.time = (e'.record? cutoff).map Record.time :=
      time_record?_of_alike he
    unfold Tail.standing
    rw [hnewest batches batches' h]
    cases hr : e.record? cutoff with
    | none =>
      rw [hr] at htime
      rw [Option.map_eq_none_iff.1 htime.symm]
    | some r =>
      rw [hr] at htime
      obtain ⟨r', hr', hsame⟩ := Option.map_eq_some_iff.1 htime.symm
      rw [hr', Option.map_some, Option.map_some, hsame]

end Log

namespace Etl

/-- **The merge of ETL statistics does not look at spellings.** -/
structure Indifferent (cutoff : Option Instant) : Prop where
  /-- Whether a run survives does not depend on the spelling of its stamps. -/
  survives : ∀ s s' : Stats, Alike s.started s'.started →
    Option.Rel Alike s.completed s'.completed → s.survives cutoff = s'.survives cutoff
  /-- Nor does it when the record that it leaves started and ended. -/
  times : ∀ s s' : Stats, Alike s.started s'.started →
    Option.Rel Alike s.completed s'.completed → ∀ d,
      (Record.kept? cutoff d s).map (fun r => (r.startedAt, r.completedAt)) =
        (Record.kept? cutoff d s').map fun r => (r.startedAt, r.completedAt)

/-- The times of a record are those of the stamps of its run. -/
theorem map_times_kept? (cutoff : Option Instant) (d : Destination) (s : Stats) :
    (Record.kept? cutoff d s).map (fun r => (r.startedAt, r.completedAt)) =
      (Instant.ofStamp? s.started).bind fun started =>
        (s.completed.elim (some none) fun value => (Instant.ofStamp? value).map some).bind fun ended =>
          if started.past cutoff then some (started, ended) else none := by
  unfold Record.kept?
  rw [Record.derive_eq]
  cases Instant.ofStamp? s.started with
  | none => rfl
  | some started =>
    cases s.completed with
    | none => by_cases hpast : started.past cutoff <;> simp [hpast]
    | some value =>
      cases h : Instant.ofStamp? value with
      | none => simp [h]
      | some ended => by_cases hpast : started.past cutoff <;> simp [h, hpast]

theorem indifferent (cutoff : Option Instant) : Indifferent cutoff := by
  have htimes : ∀ s s' : Stats, Alike s.started s'.started →
      Option.Rel Alike s.completed s'.completed → ∀ d,
        (Record.kept? cutoff d s).map (fun r => (r.startedAt, r.completedAt)) =
          (Record.kept? cutoff d s').map fun r => (r.startedAt, r.completedAt) := by
    intro s s' hstarted hcompleted d
    rw [map_times_kept?, map_times_kept?, hstarted.ofStamp?_eq]
    have hended : (s.completed.elim (some none) fun value => (Instant.ofStamp? value).map some) =
        s'.completed.elim (some none) fun value => (Instant.ofStamp? value).map some := by
      generalize s.completed = c, s'.completed = c' at hcompleted
      cases hcompleted with
      | none => rfl
      | some hvalue => exact congrArg (Option.map some) hvalue.ofStamp?_eq
    rw [hended]
  refine ⟨fun s s' hstarted hcompleted => ?_, htimes⟩
  have hkept := congrArg Option.isSome (htimes s s' hstarted hcompleted .raven)
  rwa [Option.isSome_map, Option.isSome_map, Record.isSome_kept?, Record.isSome_kept?] at hkept

end Etl

namespace Feed

/-- **A reading in all its spellings**: without an offset it is the instant in UTC,
and so it is with `Z`; with an offset it is that instant less the offset, to the
nanosecond. -/
structure Agreeing (w : Written) : Prop where
  bare : Instant.ofStamp? (w.text .unsaid) = some w.instant
  zulu : Instant.ofStamp? (w.text .zulu) = Instant.ofStamp? (w.text .unsaid)
  ahead : ∀ hours minutes, Instant.ofStamp? (w.text (.ahead hours minutes)) =
    some ⟨w.instant.seconds - (hours * 3600 + minutes * 60), w.instant.nanos⟩
  behind : ∀ hours minutes, Instant.ofStamp? (w.text (.behind hours minutes)) =
    some ⟨w.instant.seconds + (hours * 3600 + minutes * 60), w.instant.nanos⟩

theorem agreeing (w : Written) : Agreeing w := by
  have hunsaid : w.instantAt .unsaid = w.instant := by
    rw [Written.instantAt, Stamp.Zone.seconds, Int.sub_zero]
  refine ⟨?_, ?_, fun hours minutes => w.ofStamp?_text (.ahead hours minutes),
    fun hours minutes => ?_⟩
  · rw [w.ofStamp?_text, hunsaid]
  · rw [w.ofStamp?_text, w.ofStamp?_text]
    rfl
  · rw [w.ofStamp?_text, Written.instantAt, Stamp.Zone.seconds, Int.sub_neg]

/-- **How a server spells its times does not matter.** Every spelling of a date and
a time of day, with a second 60 and with any fraction, is read as one instant, less
the offset that it gives, and neither merge of times does anything but compare the
instants. -/
theorem indifferent_spellings (w : Written) (cutoff : Option Instant) :
    Agreeing w ∧ Log.Indifferent cutoff ∧ Etl.Indifferent cutoff :=
  ⟨agreeing w, Log.indifferent cutoff, Etl.indifferent cutoff⟩

/-- The last second of 2016 an hour behind UTC falls on New Year's Day, where it is
the leap second of the first hour; log lines with these stamps meet one cutoff alike. -/
theorem indifferent_spellings_leap :
    let w : Written := ⟨⟨2016, 12, 31⟩, 23, 59, 60, ['2', '5'], by decide, by decide, by decide,
      by decide, by decide, by decide, by simp⟩
    let w' : Written := ⟨⟨2017, 1, 1⟩, 0, 59, 60, ['2', '5', '0'], by decide, by decide, by decide,
      by decide, by decide, by decide, by simp⟩
    w.text (.behind 1 0) = "2016-12-31T23:59:60.25-01:00" ∧
      Instant.ofStamp? (w.text (.behind 1 0)) = some ⟨1483232399, 1250000000⟩ ∧
      w.instant.seconds / 86400 + 1 = 1483232399 / 86400 ∧
      w'.text .zulu = "2017-01-01T00:59:60.250Z" ∧
      ∀ cutoff (e e' : Log.Entry), e.time = w.text (.behind 1 0) → e'.time = w'.text .zulu →
        e.survives cutoff = e'.survives cutoff := by
  intro w w'
  have hbehind : Instant.ofStamp? (w.text (.behind 1 0)) = some ⟨1483232399, 1250000000⟩ :=
    ((indifferent_spellings w none).1.behind 1 0).trans (by decide)
  refine ⟨by decide +kernel, hbehind, by decide, by decide +kernel, fun cutoff e e' he he' => ?_⟩
  refine (indifferent_spellings w cutoff).2.1.survives e e' ?_
  rw [he, he']
  exact .spellings (by decide)

end Feed

end Telemetry
