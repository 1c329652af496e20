import Mathlib.Data.List.Nodup
import Telemetry.Log.Tail
import Telemetry.Proofs.Merge
import Telemetry.Proofs.Time.Instant
/-!
# Log — a tail that is sent again

A server writes a log once, in the order of its times, and sends it in
pieces; after a reconnect a piece may begin before the end of the last
one, and even end there. Whatever the pieces, the lines sent so far are
held once each, in order (`records_replay`).

Two facts carry this from line to line. The newest time of a tail is the
greatest one it holds (`Dated`), so a line sent before is older than the
newest, or as old and held. And a line that is new to the tail is no older
than what is held, and not among it, since the log has no line twice
(`Steady.next`).
-/

namespace Telemetry

namespace Log

variable {cutoff newest : Option Time.Instant}

/-! ## What a line leaves -/

/-- The record a line leaves, if its time can be read and is past the
cutoff. -/
def Entry.record? (cutoff : Option Time.Instant) (e : Entry) : Option Record :=
  match Time.Instant.ofStamp? e.time with
  | some t => if t.past cutoff then some ⟨e, t⟩ else none
  | none => none

/-- The records some lines leave, in order. -/
def kept (cutoff : Option Time.Instant) (lines : List Entry) : List Record :=
  lines.filterMap (Entry.record? cutoff)

/-- A record holds its line and the time of it. -/
theorem Entry.of_record? {e : Entry} {r : Record} (h : e.record? cutoff = some r) :
    r.entry = e ∧ Time.Instant.ofStamp? e.time = some r.time := by
  unfold Entry.record? at h
  split at h
  · next t ht =>
    split at h
    · obtain rfl := Option.some.inj h
      exact ⟨rfl, ht⟩
    · cases h
  · cases h

theorem mem_kept {lines : List Entry} {r : Record} :
    r ∈ kept cutoff lines ↔ r.entry ∈ lines ∧ r.entry.record? cutoff = some r := by
  rw [kept, List.mem_filterMap]
  constructor
  · rintro ⟨e, he, hr⟩
    obtain ⟨rfl, -⟩ := Entry.of_record? hr
    exact ⟨he, hr⟩
  · rintro ⟨he, hr⟩
    exact ⟨r.entry, he, hr⟩

/-- One more line leaves one more record, or none. -/
theorem kept_take_succ {lines : List Entry} {i : Nat} {e : Entry} (h : lines[i]? = some e) :
    kept cutoff (lines.take (i + 1)) =
      kept cutoff (lines.take i) ++ (e.record? cutoff).toList := by
  rw [List.take_add_one, h, kept, List.filterMap_append, ← kept]
  cases hr : e.record? cutoff <;> simp [hr]

/-! ## Logs as they are written -/

/-- **A log as a server writes it**: no line twice, and the times in order,
as far as they can be read. -/
structure Steady (lines : List Entry) : Prop where
  nodup : lines.Nodup
  sorted : (lines.filterMap fun e => Time.Instant.ofStamp? e.time).Pairwise (· ≤ ·)

/-- **The next line** of a log is none of those before it, and no older than
any of them. -/
theorem Steady.next {lines : List Entry} (h : Steady lines) {i : Nat} {e : Entry}
    (hi : lines[i]? = some e) :
    e ∉ lines.take i ∧ ∀ e' ∈ lines.take i, ∀ t t', Time.Instant.ofStamp? e.time = some t →
      Time.Instant.ofStamp? e'.time = some t' → t' ≤ t := by
  obtain ⟨hlt, rfl⟩ := List.getElem?_eq_some_iff.1 hi
  have hsplit : lines = lines.take i ++ lines[i] :: lines.drop (i + 1) := by
    rw [← List.drop_eq_getElem_cons hlt, List.take_append_drop]
  have hnodup := h.nodup
  have hsorted := List.pairwise_filterMap.1 h.sorted
  rw [hsplit] at hnodup hsorted
  refine ⟨fun hmem => ?_, fun e' he' t t' ht ht' => ?_⟩
  · exact (List.nodup_append.1 hnodup).2.2 _ hmem _ List.mem_cons_self rfl
  · exact (List.pairwise_append.1 hsorted).2.2 e' he' _ List.mem_cons_self t' ht' t ht

/-! ## One line -/

namespace Tail

/-- **The newest time of a tail** is the greatest it holds, and there is one
if anything is held. -/
structure Dated (tail : Tail) : Prop where
  attained : ∀ n, tail.newest = some n → ∃ r ∈ tail.records.toList, r.time = n
  bound : ∀ r ∈ tail.records.toList, ∃ n, tail.newest = some n ∧ r.time ≤ n

theorem dated_empty : Dated empty where
  attained n hn := by cases hn
  bound r hr := by simp [empty] at hr

theorem toList_push (tail : Tail) (r : Record) :
    (tail.push r).records.toList = tail.records.toList ++ [r] := by
  simp [push]

/-- Whatever is put at the end, the newest time stays the greatest. -/
theorem Dated.push {tail : Tail} (h : Dated tail) (r : Record) : Dated (tail.push r) := by
  have hnewest : (tail.push r).newest = some (later tail.newest r.time) := rfl
  cases hn : tail.newest with
  | none =>
    -- nothing is held before
    have hempty : ∀ r', r' ∉ tail.records.toList := by
      intro r' hr'
      obtain ⟨n, hn', -⟩ := h.bound r' hr'
      rw [hn] at hn'
      cases hn'
    rw [hn] at hnewest
    refine ⟨fun n hn' => ?_, fun r' hr' => ?_⟩
    · rw [hnewest] at hn'
      exact ⟨r, by simp [toList_push], Option.some.inj hn'⟩
    · rw [toList_push, List.mem_append, List.mem_singleton] at hr'
      obtain rfl := hr'.resolve_left (hempty r')
      exact ⟨_, hnewest, le_rfl⟩
  | some n₀ =>
    have hlater : (tail.push r).newest = some (max n₀ r.time) := by rw [hnewest, hn]; rfl
    refine ⟨fun n hn' => ?_, fun r' hr' => ?_⟩
    · rw [hlater] at hn'
      obtain rfl := Option.some.inj hn'
      rcases le_total n₀ r.time with hle | hle
      · exact ⟨r, by simp [toList_push], (max_eq_right hle).symm⟩
      · obtain ⟨r₀, hr₀, htime⟩ := h.attained n₀ hn
        exact ⟨r₀, by simp [toList_push, Array.mem_toList_iff.1 hr₀],
          htime.trans (max_eq_left hle).symm⟩
    · rw [toList_push, List.mem_append, List.mem_singleton] at hr'
      refine ⟨_, hlater, ?_⟩
      rcases hr' with hr' | rfl
      · obtain ⟨n, hn', hle⟩ := h.bound r' hr'
        rw [hn] at hn'
        obtain rfl := Option.some.inj hn'
        exact le_trans hle (le_max_left _ _)
      · exact le_max_right _ _

/-- **What a line does to a tail**: its record, if it leaves one, goes to
the end unless the line counts as a repeat. -/
theorem tree_absorb (tail : Tail) (e : Entry) :
    (absorb cutoff newest tail e).tree =
      match e.record? cutoff with
      | none => tail
      | some r => if isRepeat newest tail r then tail else tail.push r := by
  unfold absorb Entry.record?
  cases Time.Instant.ofStamp? e.time with
  | none => rfl
  | some t =>
    by_cases hp : t.past cutoff <;> by_cases hr : isRepeat newest tail ⟨e, t⟩ <;>
      simp [hp, hr, Ingestion.unchanged, Ingestion.moved]

/-- A line is a repeat if it is older than the newest of the earlier
batches, or as old and held. -/
theorem isRepeat_iff {tail : Tail} {r : Record} :
    isRepeat newest tail r = true ↔ ∃ n, newest = some n ∧
      (r.time < n ∨ r.time = n ∧ r ∈ tail.records.toList) := by
  cases newest <;> simp [isRepeat, holds]

theorem Dated.absorb {tail : Tail} (h : Dated tail) (e : Entry) :
    Dated (absorb cutoff newest tail e).tree := by
  rw [tree_absorb]
  cases e.record? cutoff with
  | none => exact h
  | some r =>
    dsimp only
    split
    · exact h
    · exact h.push r

end Tail

/-! ## One batch -/

/-- A tail holds the first `n` lines of a log. -/
structure Holds (cutoff : Option Time.Instant) (lines : List Entry) (n : Nat) (tail : Tail) :
    Prop where
  records : tail.records.toList = kept cutoff (lines.take n)
  dated : tail.Dated

variable {lines : List Entry} {n : Nat} {before tail : Tail}

/-- A line that a batch repeats is known by the newest time before the
batch, or by the lines held. -/
theorem Holds.absorb_old (hbefore : Holds cutoff lines n before) (h : Holds cutoff lines n tail)
    {e : Entry} (he : e ∈ lines.take n) :
    (tail.absorb cutoff before.newest e).tree = tail := by
  rw [Tail.tree_absorb]
  cases hr : e.record? cutoff with
  | none => rfl
  | some r =>
    have hentry : r.entry = e := (Entry.of_record? hr).1
    have hmem : r ∈ kept cutoff (lines.take n) := mem_kept.2 (by rw [hentry]; exact ⟨he, hr⟩)
    obtain ⟨newest, hnewest, hle⟩ := hbefore.dated.bound r (by rw [hbefore.records]; exact hmem)
    have hrepeat : Tail.isRepeat before.newest tail r = true := by
      refine Tail.isRepeat_iff.2 ⟨newest, hnewest, ?_⟩
      rcases lt_or_eq_of_le hle with hlt | heq
      · exact .inl hlt
      · exact .inr ⟨heq, by rw [h.records]; exact hmem⟩
    simp [hrepeat]

/-- A line that no batch has brought before is put at the end, if it leaves
a record at all. -/
theorem Holds.absorb_new (hlines : Steady lines) (hbefore : Holds cutoff lines n before) {i : Nat}
    (hni : n ≤ i) (h : Holds cutoff lines i tail) {e : Entry} (hi : lines[i]? = some e) :
    Holds cutoff lines (i + 1) (tail.absorb cutoff before.newest e).tree := by
  refine ⟨?_, h.dated.absorb e⟩
  obtain ⟨hnew, hsorted⟩ := hlines.next hi
  rw [kept_take_succ hi, ← h.records, Tail.tree_absorb]
  cases hr : e.record? cutoff with
  | none => simp
  | some r =>
    obtain ⟨rfl, htime⟩ := Entry.of_record? hr
    have hfresh : ¬ Tail.isRepeat before.newest tail r = true := by
      rw [Tail.isRepeat_iff]
      rintro ⟨newest, hnewest, hlt | ⟨-, hheld⟩⟩
      · -- some line before it would be newer
        obtain ⟨r₀, hr₀, rfl⟩ := hbefore.dated.attained newest hnewest
        rw [hbefore.records, mem_kept] at hr₀
        have hle := hsorted r₀.entry ((List.take_subset_take_left lines hni) hr₀.1) _ _ htime
          (Entry.of_record? hr₀.2).2
        exact absurd hlt (not_lt.2 hle)
      · -- it would have come before
        rw [h.records, mem_kept] at hheld
        exact hnew hheld.1
    simp [hfresh, Tail.toList_push]

/-- **A batch that begins where the tail ends, or before**, brings the tail
up to its own end. -/
theorem Holds.each_absorb (hlines : Steady lines) (h : Holds cutoff lines n before) {j : Nat}
    (hj : j ≤ n) (k : Nat) :
    Holds cutoff lines (max n (j + k))
      (Ingestion.each (Tail.absorb cutoff before.newest) before ((lines.drop j).take k)).tree := by
  rw [Ingestion.tree_each]
  induction k with
  | zero =>
    rw [List.take_zero, Nat.add_zero, Nat.max_eq_left hj]
    exact h
  | succ k ih =>
    rw [List.take_add_one, List.getElem?_drop, List.foldl_append]
    cases he : lines[j + k]? with
    | none =>
      -- the log has ended
      have hlength : lines.length ≤ j + k := List.getElem?_eq_none_iff.1 he
      have htake : lines.take (max n (j + (k + 1))) = lines.take (max n (j + k)) := by
        rw [List.take_of_length_le (by omega), List.take_of_length_le (by omega)]
      exact ⟨by rw [htake]; exact ih.records, ih.dated⟩
    | some e =>
      by_cases hold : j + k < n
      · -- a line sent before
        have hmax : max n (j + k) = n := by omega
        have hmax' : max n (j + (k + 1)) = n := by omega
        rw [hmax] at ih
        have hmem : e ∈ lines.take n :=
          List.mem_iff_getElem?.2 ⟨j + k, by rw [List.getElem?_take_of_lt hold, he]⟩
        have habsorb := h.absorb_old ih hmem
        simp only [Option.toList_some, List.foldl_cons, List.foldl_nil]
        rw [hmax', habsorb]
        exact ih
      · have hmax : max n (j + k) = j + k := by omega
        have hmax' : max n (j + (k + 1)) = j + k + 1 := by omega
        rw [hmax] at ih
        rw [hmax']
        exact h.absorb_new hlines (by omega) ih he

/-- **A slice of a log, cut into batches** in any way, brings a tail up to its
end if it begins where the tail ends, or before. -/
theorem Holds.replay_slice (hlines : Steady lines) (h : Holds cutoff lines n tail) {j m : Nat}
    (hj : j ≤ n) {batches : List (List Entry)}
    (hslice : batches.flatten = (lines.take m).drop j) :
    Holds cutoff lines (max n m) ((merge cutoff).replay tail batches) := by
  induction batches generalizing n j tail with
  | nil =>
    -- the slice is empty: it ends before the tail does, or the log has ended
    have hlength := List.drop_eq_nil_iff.1 hslice.symm
    rw [List.length_take] at hlength
    have htake : lines.take (max n m) = lines.take n := by
      rcases (by omega : m ≤ n ∨ lines.length ≤ n) with hmn | hend
      · rw [Nat.max_eq_left hmn]
      · rw [List.take_of_length_le (by omega), List.take_of_length_le hend]
    exact ⟨by rw [htake]; exact h.records, h.dated⟩
  | cons batch rest ih =>
    rw [List.flatten_cons] at hslice
    have hlength := congrArg List.length hslice
    rw [List.length_append, List.length_drop, List.length_take] at hlength
    have hbatch : batch = (lines.drop j).take batch.length := by
      have hprefix := congrArg (List.take batch.length) hslice
      rw [List.take_left, List.drop_take, List.take_take] at hprefix
      rw [Nat.min_eq_left (by omega)] at hprefix
      exact hprefix
    have hrest : rest.flatten = (lines.take m).drop (j + batch.length) := by
      have hsuffix := congrArg (List.drop batch.length) hslice
      rwa [List.drop_left, List.drop_drop] at hsuffix
    have hnext := h.each_absorb hlines hj batch.length
    rw [← hbatch] at hnext
    have hend := ih hnext (Nat.le_max_right _ _) hrest
    have hmax : max (max n (j + batch.length)) m = max n m := by
      omega
    rw [hmax] at hend
    exact hend

/-! ## Pieces of a log -/

/-- A piece of a log: the lines from one place up to another. -/
structure Piece where
  start : Nat
  stop : Nat

/-- The lines of a piece. -/
def Piece.of (lines : List Entry) (p : Piece) : List Entry := (lines.take p.stop).drop p.start

/-- How far a log has been sent, from a place on, after some pieces. -/
def reach (n : Nat) (pieces : List Piece) : Nat := pieces.foldl (fun n p => max n p.stop) n

/-- **No piece leaves a gap**: each begins no later than what has been sent
before it ends. -/
def Gapless (n : Nat) : List Piece → Prop
  | [] => True
  | p :: rest => p.start ≤ n ∧ Gapless (max n p.stop) rest

/-- Pieces without gaps bring a tail up to where they reach. -/
theorem Holds.replay (hlines : Steady lines) (h : Holds cutoff lines n tail) {pieces : List Piece}
    (hpieces : Gapless n pieces) :
    Holds cutoff lines (reach n pieces)
      ((merge cutoff).replay tail (pieces.map (Piece.of lines))) := by
  induction pieces generalizing n tail with
  | nil => exact h
  | cons p rest ih =>
    obtain ⟨hstart, hrest⟩ := hpieces
    have hbatch := h.each_absorb hlines hstart (p.stop - p.start)
    have hstop : max n (p.start + (p.stop - p.start)) = max n p.stop := by omega
    rw [hstop, ← List.drop_take] at hbatch
    exact ih hbatch hrest

/-- **A tail sent again is held once.** Whatever the pieces in which a log
is sent, as long as they leave no gap, the records held are those that the
lines sent so far leave, in order, and none of them twice. -/
theorem records_replay (cutoff : Option Time.Instant) {lines : List Entry} (hlines : Steady lines)
    {pieces : List Piece} (hpieces : Gapless 0 pieces) :
    let tail := (merge cutoff).replay (merge cutoff).initial (pieces.map (Piece.of lines))
    tail.records.toList = kept cutoff (lines.take (reach 0 pieces)) ∧
      tail.records.toList.Nodup := by
  intro tail
  have hempty : Holds cutoff lines 0 (merge cutoff).initial := ⟨rfl, Tail.dated_empty⟩
  have hrecords := (hempty.replay hlines hpieces).records
  refine ⟨hrecords, ?_⟩
  rw [hrecords]
  -- a line leaves a record that holds it, so no two lines leave the same one
  have hnodup := hlines.nodup.sublist (List.take_sublist (reach 0 pieces) lines)
  refine List.Nodup.filterMap (fun e e' r he he' => ?_) hnodup
  exact (Entry.of_record? he).1.symm.trans (Entry.of_record? he').1

/-- A log with two lines of one time and one line without: the second piece
is an old one, the third begins between the two. -/
theorem records_replay_reconnected :
    let line := fun time message => Entry.mk time "Info" "server" "main" message none
    let lines := [line "2024-05-01T10:00:00Z" "boot", line "2024-05-01T10:00:01Z" "ready",
      line "soon" "idle", line "2024-05-01T10:00:01Z" "bound", line "2024-05-01T10:00:02Z" "done"]
    let pieces : List Piece := [⟨0, 4⟩, ⟨1, 2⟩, ⟨2, 5⟩]
    let cutoff := Time.Instant.ofStamp? "2024-05-01T10:00:00Z"
    let tail := (merge cutoff).replay (merge cutoff).initial (pieces.map (Piece.of lines))
    Steady lines ∧ Gapless 0 pieces ∧
      (tail.records.toList = kept cutoff (lines.take (reach 0 pieces)) ∧
        tail.records.toList.Nodup) ∧
      tail.records.toList.map (·.entry.message) = ["ready", "bound", "done"] := by
  intro line lines pieces cutoff tail
  have hlines : Steady lines := ⟨by decide, by decide +kernel⟩
  have hpieces : Gapless 0 pieces := ⟨by decide, by decide, by decide, trivial⟩
  exact ⟨hlines, hpieces, records_replay cutoff hlines hpieces, by decide +kernel⟩

end Log

end Telemetry
