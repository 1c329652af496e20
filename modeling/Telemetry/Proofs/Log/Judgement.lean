import Telemetry.Proofs.Log.News
/-!
# Log — what a batch adds to a tail

A batch is held against the tail there was before it: a line is admitted if it
is later than the newest line of the earlier batches, or as late and not held
(`Tail.admits`). The newest time stands for the whole batch, but what is held is
searched as it grows, so lines of one batch do meet each other, at this one time
and at no other. There, of equal lines only the first is added; any other line
is added as often as it comes, or not at all (`Tail.judged_replay`).
-/

namespace Telemetry

namespace Log

variable {cutoff newest : Option Time.Instant} {tail : Tail} {batch : List Entry}

/-- **A line cannot be told from an earlier one** of its batch if it leaves the
same record, at the newest time of the earlier batches. -/
def Record.again (newest : Option Time.Instant) (r earlier : Record) : Bool :=
  r == earlier && newest == some r.time

theorem kept_cons (cutoff : Option Time.Instant) (e : Entry) (rest : List Entry) :
    kept cutoff (e :: rest) = (e.record? cutoff).toList ++ kept cutoff rest := by
  rw [kept, List.filterMap_cons]
  cases e.record? cutoff <;> rfl

/-! ## Lines that come again in their batch -/

section Again

variable {α : Type} {same : α → α → Bool}

/-- What is left of a list follows the list: after its first item comes what is
left of the others that are not the same, and these are fewer. -/
theorem eraseDupsBy_induction (same : α → α → Bool) {P : List α → List α → Prop} (nil : P [] [])
    (cons : ∀ a rest, P (rest.filter fun b => decide (same b a = false))
        ((rest.filter fun b => decide (same b a = false)).eraseDupsBy same) →
      P (a :: rest) (a :: (rest.filter fun b => decide (same b a = false)).eraseDupsBy same))
    (l : List α) : P l (l.eraseDupsBy same) := by
  induction hn : l.length using Nat.strongRecOn generalizing l with
  | _ n ih =>
    cases l with
    | nil => exact nil
    | cons a rest =>
      have hle := List.length_filter_le (fun b => decide (same b a = false)) rest
      rw [List.length_cons] at hn
      rw [List.eraseDupsBy_cons]
      exact cons a rest (ih _ (by omega) _ rfl)

/-- What is left stands in its order. -/
theorem eraseDupsBy_sublist (l : List α) : (l.eraseDupsBy same).Sublist l := by
  refine eraseDupsBy_induction same (P := fun l left => left.Sublist l) .slnil
    (fun a rest ih => ?_) l
  exact (ih.trans List.filter_sublist).cons_cons a

/-- Nothing is left out where nothing comes again. -/
theorem eraseDupsBy_eq_self {l : List α} (h : l.Pairwise fun a b => same b a = false) :
    l.eraseDupsBy same = l := by
  induction l with
  | nil => rfl
  | cons a rest ih =>
    obtain ⟨hfirst, hrest⟩ := List.pairwise_cons.1 h
    have hall : rest.filter (fun b => decide (same b a = false)) = rest :=
      List.filter_eq_self.2 fun b hb => by simpa using hfirst b hb
    rw [List.eraseDupsBy_cons, hall, ih hrest]

end Again

/-- **How often a record is left**: once if it is at the newest time, else as
often as it comes. -/
theorem count_eraseDupsBy_again (newest : Option Time.Instant) (r : Record) (l : List Record) :
    (l.eraseDupsBy (Record.again newest)).count r =
      if newest = some r.time then min 1 (l.count r) else l.count r := by
  refine eraseDupsBy_induction (Record.again newest) (P := fun l left => left.count r =
    if newest = some r.time then min 1 (l.count r) else l.count r) (by simp) (fun a rest ih => ?_) l
  rw [List.count_cons, List.count_cons, ih]
  by_cases hagain : r.again newest a = true
  · obtain ⟨hsame, htime⟩ := Bool.and_eq_true_iff.1 hagain
    obtain rfl := eq_of_beq hsame
    have hnone : (rest.filter fun b => decide (b.again newest r = false)).count r = 0 := by
      refine List.count_eq_zero.2 fun hmem => ?_
      simp [hagain] at hmem
    rw [hnone, if_pos (eq_of_beq htime), if_pos (eq_of_beq htime), if_pos hsame]
    omega
  · have hothers : (rest.filter fun b => decide (b.again newest a = false)).count r =
        rest.count r := List.count_filter (by simpa using hagain)
    rw [hothers]
    split
    · next htime =>
      have hne : (a == r) = false := by
        rw [beq_eq_false_iff_ne]
        rintro rfl
        simp [Record.again, htime] at hagain
      simp [hne]
    · rfl

namespace Tail

/-! ## What lines add -/

/-- What is a repeat after one more record was a repeat before it, or is that
record again. -/
theorem isRepeat_push (newest : Option Time.Instant) (tail : Tail) (r r' : Record) :
    isRepeat newest (tail.push r) r' = (isRepeat newest tail r' || r'.again newest r) := by
  rw [Bool.eq_iff_iff, Bool.or_eq_true, isRepeat_iff, isRepeat_iff]
  simp only [toList_push, List.mem_append, List.mem_singleton, Record.again, Bool.and_eq_true,
    beq_iff_eq]
  constructor
  · rintro ⟨n, hn, hlt | ⟨htime, hheld | hsame⟩⟩
    · exact .inl ⟨n, hn, .inl hlt⟩
    · exact .inl ⟨n, hn, .inr ⟨htime, hheld⟩⟩
    · exact .inr ⟨hsame, hn.trans (congrArg some htime.symm)⟩
  · rintro (⟨n, hn, hlt | ⟨htime, hheld⟩⟩ | ⟨hsame, hn⟩)
    · exact ⟨n, hn, .inl hlt⟩
    · exact ⟨n, hn, .inr ⟨htime, .inl hheld⟩⟩
    · exact ⟨r'.time, hn, .inr ⟨rfl, .inr hsame⟩⟩

/-- **What lines add to a tail**, given the newest time of the earlier batches:
the records that are no repeats to the tail before them, less those that come
again. -/
theorem records_each (newest : Option Time.Instant) (tail : Tail) (batch : List Entry) :
    (Ingestion.each (absorb cutoff newest) tail batch).tree.records.toList =
      tail.records.toList ++ ((kept cutoff batch).filter fun r =>
        !isRepeat newest tail r).eraseDupsBy (Record.again newest) := by
  induction batch generalizing tail with
  | nil => simp [Ingestion.each, Ingestion.unchanged, kept]
  | cons e rest ih =>
    change (Ingestion.each (absorb cutoff newest) (tail.absorb cutoff newest e).tree
      rest).tree.records.toList = _
    rw [ih, tree_absorb, kept_cons]
    cases e.record? cutoff with
    | none => rfl
    | some r =>
      rw [Option.toList_some, List.singleton_append]
      dsimp only
      by_cases hr : isRepeat newest tail r = true
      · rw [if_pos hr, List.filter_cons_of_neg (by simp [hr])]
      · -- the record stands in the way of those after it that are the same
        have hrest : (fun r' => !isRepeat newest (tail.push r) r') = fun r' =>
            decide (Record.again newest r' r = false) && !isRepeat newest tail r' := by
          funext r'
          rw [isRepeat_push]
          cases isRepeat newest tail r' <;> cases r'.again newest r <;> rfl
        rw [if_neg hr, List.filter_cons_of_pos (by simp [hr]), List.eraseDupsBy_cons,
          List.filter_filter, toList_push, List.append_assoc, List.singleton_append, hrest]

/-- **A batch appends** records of its lines, in their order, none of which is
a repeat to the tail before it. -/
theorem exists_added (cutoff : Option Time.Instant) (tail : Tail) (batch : List Entry) :
    ∃ added, ((merge cutoff).next tail batch).records.toList = tail.records.toList ++ added ∧
      added.Sublist (kept cutoff batch) ∧
      ∀ r ∈ added, isRepeat tail.newest tail r = false := by
  refine ⟨_, records_each tail.newest tail batch, ?_, fun r hr => ?_⟩
  · exact (eraseDupsBy_sublist _).trans List.filter_sublist
  · simpa using (List.mem_filter.1 ((eraseDupsBy_sublist _).subset hr)).2

/-! ## Records and their lines -/

/-- Every record has the time of its line. -/
def Timed (tail : Tail) : Prop :=
  ∀ r ∈ tail.records.toList, Time.Instant.ofStamp? r.entry.time = some r.time

theorem timed_empty : Timed empty := fun r hr => by simp [empty] at hr

/-- **Batches leave every record with the time of its line.** -/
theorem Timed.replay (h : tail.Timed) (batches : List (List Entry)) :
    ((merge cutoff).replay tail batches).Timed := by
  refine List.foldlRecOn batches _ h fun tail htail batch _ r hr => ?_
  obtain ⟨added, hrecords, hkept, -⟩ := exists_added cutoff tail batch
  rw [hrecords, List.mem_append] at hr
  rcases hr with hr | hr
  · exact htail r hr
  · exact (Entry.of_record? (mem_kept.1 (hkept.subset hr)).2).2

/-! ## What is admitted -/

/-- **A tail admits a record** that is later than its newest one, or as late and
of a line that it does not hold. -/
def admits (tail : Tail) (r : Record) : Bool :=
  match tail.newest with
  | none => true
  | some n => decide (n < r.time) ||
      (n == r.time && tail.records.toList.all fun held => held.entry != r.entry)

/-- The records of a batch that the tail before it admits. -/
def admitted (cutoff : Option Time.Instant) (tail : Tail) (batch : List Entry) : List Record :=
  (kept cutoff batch).filter tail.admits

/-- With the times that their lines have, a record is held if its line is. -/
theorem Timed.mem_iff (h : tail.Timed) {r : Record}
    (hr : Time.Instant.ofStamp? r.entry.time = some r.time) :
    r ∈ tail.records.toList ↔ ∃ held ∈ tail.records.toList, held.entry = r.entry := by
  refine ⟨fun hmem => ⟨r, hmem, rfl⟩, fun ⟨held, hmem, hentry⟩ => ?_⟩
  have htime : some held.time = some r.time := by rw [← h held hmem, hentry, hr]
  have hsame : held = r := by
    cases held
    cases r
    rw [Record.mk.injEq]
    exact ⟨hentry, Option.some.inj htime⟩
  exact hsame ▸ hmem

theorem admits_iff {r : Record} : tail.admits r = true ↔ ∀ n, tail.newest = some n →
    n < r.time ∨ n = r.time ∧ ∀ held ∈ tail.records.toList, held.entry ≠ r.entry := by
  unfold admits
  cases tail.newest with
  | none => simp
  | some n =>
    simp only [Bool.or_eq_true, decide_eq_true_eq, Bool.and_eq_true, beq_iff_eq, List.all_eq_true,
      bne_iff_ne, Option.some.injEq, forall_eq']

/-- **What is admitted is no repeat**, and nothing else is. -/
theorem Timed.admits_eq (h : tail.Timed) {r : Record}
    (hr : Time.Instant.ofStamp? r.entry.time = some r.time) :
    tail.admits r = !isRepeat tail.newest tail r := by
  rw [Bool.eq_iff_iff, Bool.not_eq_true', ← Bool.not_eq_true, admits_iff, isRepeat_iff,
    h.mem_iff hr]
  constructor
  · rintro hadmits ⟨n, hn, hlt | ⟨rfl, held, hmem, hentry⟩⟩
    · rcases hadmits n hn with hgt | ⟨rfl, -⟩
      · exact lt_asymm hlt hgt
      · exact lt_irrefl _ hlt
    · rcases hadmits _ hn with hgt | ⟨-, hnew⟩
      · exact lt_irrefl _ hgt
      · exact hnew held hmem hentry
  · intro hfresh n hn
    rcases lt_trichotomy n r.time with hgt | heq | hlt
    · exact .inl hgt
    · exact .inr ⟨heq, fun held hmem hentry =>
        hfresh ⟨n, hn, .inr ⟨heq.symm, held, hmem, hentry⟩⟩⟩
    · exact absurd ⟨n, hn, .inl hlt⟩ hfresh

/-- **What a batch adds is what the tail before it admits**, less what comes
again. -/
theorem Timed.records_next (h : tail.Timed) (cutoff : Option Time.Instant) (batch : List Entry) :
    ((merge cutoff).next tail batch).records.toList = tail.records.toList ++
      (tail.admitted cutoff batch).eraseDupsBy (Record.again tail.newest) := by
  have hadmitted : tail.admitted cutoff batch =
      (kept cutoff batch).filter fun r => !isRepeat tail.newest tail r :=
    List.filter_congr fun r hr => h.admits_eq (Entry.of_record? (mem_kept.1 hr).2).2
  rw [hadmitted]
  exact records_each tail.newest tail batch

/-- Nothing admitted comes again exactly if nothing at the newest time is
admitted twice. -/
theorem eraseDupsBy_admitted_eq_self_iff :
    (tail.admitted cutoff batch).eraseDupsBy (Record.again tail.newest) =
        tail.admitted cutoff batch ↔
      ((tail.admitted cutoff batch).filter fun r => tail.newest == some r.time).Nodup := by
  constructor
  · intro hsame
    refine List.nodup_iff_count_le_one.2 fun r => ?_
    cases htime : tail.newest == some r.time with
    | true =>
      have hcount := count_eraseDupsBy_again tail.newest r (tail.admitted cutoff batch)
      rw [hsame, if_pos (eq_of_beq htime)] at hcount
      rw [List.count_filter (p := fun r : Record => tail.newest == some r.time) htime]
      omega
    | false =>
      have hnone : r ∉ (tail.admitted cutoff batch).filter fun r => tail.newest == some r.time :=
        fun hmem => by simp [htime] at hmem
      rw [List.count_eq_zero.2 hnone]
      exact Nat.zero_le 1
  · intro hnodup
    refine eraseDupsBy_eq_self ((List.pairwise_filter.1 hnodup).imp fun {a b} hne => ?_)
    rw [Bool.eq_false_iff]
    intro hagain
    obtain ⟨hsame, htime⟩ := Bool.and_eq_true_iff.1 hagain
    obtain rfl := eq_of_beq hsame
    exact hne htime htime rfl

/-! ## What a batch is judged by -/

/-- **How a batch is judged** that comes to a tail. -/
structure Judged (cutoff : Option Time.Instant) (tail : Tail) (batch : List Entry) : Prop where
  /-- The records there were are followed by those that the tail before the batch
  admits, in the order of the batch; but what comes again at its newest time is
  left out. -/
  added : ((merge cutoff).next tail batch).records.toList = tail.records.toList ++
    (tail.admitted cutoff batch).eraseDupsBy (Record.again tail.newest)
  /-- So all that is admitted is added, exactly if no line at the newest time
  comes twice among it. -/
  exact : ((merge cutoff).next tail batch).records.toList =
      tail.records.toList ++ tail.admitted cutoff batch ↔
    ((tail.admitted cutoff batch).filter fun r => tail.newest == some r.time).Nodup
  /-- Equal lines are all added, or none is; but at the newest time it is the
  first of them, or none. -/
  copies : ∀ r, ((merge cutoff).next tail batch).records.toList.count r =
    tail.records.toList.count r +
      if tail.admits r then
        if tail.newest = some r.time then min 1 ((kept cutoff batch).count r)
        else (kept cutoff batch).count r
      else 0

/-- **Every batch is judged by what was held before it**, but for lines that come
twice at the newest time there was: these meet each other. -/
theorem judged_replay (cutoff : Option Time.Instant) (history : List (List Entry))
    (batch : List Entry) :
    Judged cutoff ((merge cutoff).replay (merge cutoff).initial history) batch := by
  have htimed : ((merge cutoff).replay (merge cutoff).initial history).Timed :=
    timed_empty.replay history
  generalize (merge cutoff).replay (merge cutoff).initial history = tail at htimed ⊢
  have hadded := htimed.records_next cutoff batch
  refine ⟨hadded, ?_, fun r => ?_⟩
  · rw [hadded, List.append_cancel_left_eq]
    exact eraseDupsBy_admitted_eq_self_iff
  · rw [hadded, List.count_append, count_eraseDupsBy_again, admitted]
    cases hr : tail.admits r with
    | true => simp only [List.count_filter hr, if_true]
    | false =>
      have hnone : r ∉ (kept cutoff batch).filter tail.admits := fun hmem => by simp [hr] at hmem
      simp [List.count_eq_zero.2 hnone]

/-- A line comes twice in one batch, and is added once: a line of that very time
is held already, though it is another one. -/
theorem twice_and_added_once :
    let line := fun message => Entry.mk "2024-05-01T10:00:00Z" "Info" "server" "main" message none
    let tail := (merge none).replay (merge none).initial [[line "boot"]]
    let batch := [line "ready", line "ready"]
    (tail.admitted none batch).map (·.entry.message) = ["ready", "ready"] ∧
      ((merge none).next tail batch).records.toList.map (·.entry.message) = ["boot", "ready"] ∧
      ((merge none).next tail batch).records.toList ≠
        tail.records.toList ++ tail.admitted none batch := by
  decide +kernel

end Tail

end Log

end Telemetry
