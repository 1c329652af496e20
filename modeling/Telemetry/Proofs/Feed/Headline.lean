import Mathlib.Data.List.Induction
import Telemetry.Feed.Basic
import Telemetry.Proofs.Aggregate.Reported
import Telemetry.Proofs.Log.Layers
/-!
# Feed — the line of the log feed

The line of the log feed is that of a last record: of the sources that show
rows, each is asked for the last record it holds, and the latest of these is put
into words (`Heads`). There is a line as soon as one of them holds a record
(`Headed`). It need not be the newest record there is, for a source may end with
an older one. But then the newer one came in the same batch as the last of its
source, before it; so if every batch is in order of time, the line is that of a
newest record.
-/

namespace Telemetry

namespace Feed

/-- **The records held** by a source that shows rows. -/
def heldBy (s : Source Log.Entry Log.Tail Log.Record) : List Log.Record :=
  match s.slot with
  | .rows _ => s.gate.tree.records.toList
  | _ => []

/-- A record of a location in words. -/
def headline (l : Location) (r : Log.Record) : String :=
  "[" ++ l.display ++ "] " ++ r.entry.level ++ " " ++ r.entry.logger ++ ": " ++ r.entry.message

/-- The words for no record are not those for any. -/
theorem headline_ne_none (l : Location) (r : Log.Record) : headline l r ≠ "no log lines yet" := by
  intro h
  have hchars := congrArg String.toList h
  simp [headline] at hchars

/-- The line of the log feed is that of the latest of the last lines. -/
theorem logLine_eq (o : Overview Log.Record) : logLine o =
    ((latest (lastLines o)).map fun l => headline l.1 l.2).getD "no log lines yet" := by
  unfold logLine
  cases latest (lastLines o) <;> rfl

/-! ## The latest of some lines -/

theorem latest_snoc (ls : List (Location × Log.Record)) (l : Location × Log.Record) :
    latest (ls ++ [l]) = some (match latest ls with
      | none => l
      | some best => if l.2.time < best.2.time then best else l) := by
  cases ls with
  | nil => rfl
  | cons first rest => simp [latest]

theorem latest_eq_none_iff {ls : List (Location × Log.Record)} : latest ls = none ↔ ls = [] := by
  cases ls <;> simp [latest]

/-- **The latest of some lines** stands after all that are no later, and before
all that are older. -/
theorem exists_split_of_latest {ls : List (Location × Log.Record)} {l : Location × Log.Record}
    (h : latest ls = some l) : ∃ front back, ls = front ++ l :: back ∧
      (∀ x ∈ front, x.2.time ≤ l.2.time) ∧ ∀ x ∈ back, x.2.time < l.2.time := by
  induction ls using List.reverseRecOn generalizing l with
  | nil => cases h
  | append_singleton ls last ih =>
    rw [latest_snoc] at h
    have hlast := Option.some.inj h
    cases hbest : latest ls with
    | none =>
      rw [hbest] at hlast
      obtain rfl := latest_eq_none_iff.1 hbest
      exact ⟨[], [], by rw [← hlast, List.nil_append], by simp, by simp⟩
    | some best =>
      obtain ⟨front, back, rfl, hfront, hback⟩ := ih hbest
      simp only [hbest] at hlast
      split at hlast
      · next hlt =>
        subst hlast
        refine ⟨front, back ++ [last], by simp, hfront, fun x hx => ?_⟩
        rcases List.mem_append.1 hx with hx | hx
        · exact hback x hx
        · rw [List.mem_singleton.1 hx]
          exact hlt
      · next hge =>
        subst hlast
        refine ⟨front ++ best :: back, [], rfl, fun x hx => ?_, by simp⟩
        have hle : best.2.time ≤ last.2.time := not_lt.1 hge
        rcases List.mem_append.1 hx with hx | hx
        · exact le_trans (hfront x hx) hle
        · rcases List.mem_cons.1 hx with rfl | hx
          · exact hle
          · exact le_trans (le_of_lt (hback x hx)) hle

/-! ## The source of the line -/

variable {a : Aggregate Log.Entry Log.Tail Log.Record}
  {s : Source Log.Entry Log.Tail Log.Record} {r : Log.Record}

/-- **A source heads the log feed** with the last record it holds, if no source
that shows rows ends with a later one, and none after it with one as late. -/
structure Heads (a : Aggregate Log.Entry Log.Tail Log.Record)
    (s : Source Log.Entry Log.Tail Log.Record) (r : Log.Record) : Prop where
  last : (heldBy s).getLast? = some r
  among : ∃ front back, a.sources = front ++ s :: back ∧
    (∀ s' ∈ front, ∀ r', (heldBy s').getLast? = some r' → r'.time ≤ r.time) ∧
    ∀ s' ∈ back, ∀ r', (heldBy s').getLast? = some r' → r'.time < r.time

theorem Heads.mem (h : Heads a s r) : s ∈ a.sources := by
  obtain ⟨front, back, hsources, -⟩ := h.among
  simp [hsources]

/-- No source ends with a later record than the one that heads the feed. -/
theorem Heads.le (h : Heads a s r) {s' : Source Log.Entry Log.Tail Log.Record}
    (hs' : s' ∈ a.sources) {r' : Log.Record} (hr' : (heldBy s').getLast? = some r') :
    r'.time ≤ r.time := by
  obtain ⟨front, back, hsources, hfront, hback⟩ := h.among
  rw [hsources, List.mem_append, List.mem_cons] at hs'
  rcases hs' with hs' | rfl | hs'
  · exact hfront s' hs' r' hr'
  · rw [h.last] at hr'
    rw [Option.some.inj hr']
  · exact le_of_lt (hback s' hs' r' hr')

/-- The last lines of an overview are the last records of its sources, if these
show what they have. -/
theorem lastLines_view
    (h : ∀ s ∈ a.sources, ∀ rows, s.slot = .rows rows → rows = s.gate.tree.records.toList) :
    lastLines a.view =
      a.sources.filterMap fun s => (heldBy s).getLast?.map (s.location, ·) := by
  rw [lastLines, Aggregate.view, List.filterMap_map]
  refine List.filterMap_congr fun s hs => ?_
  unfold heldBy
  cases hslot : s.slot with
  | rows rows => simp [hslot, h s hs rows hslot]
  | _ => simp [hslot]

/-- **The latest of the last lines** is that of the source that heads the
feed. -/
theorem exists_heads {l : Location × Log.Record}
    (h : latest (a.sources.filterMap fun s => (heldBy s).getLast?.map (s.location, ·)) = some l) :
    ∃ s, Heads a s l.2 ∧ s.location = l.1 := by
  obtain ⟨front, back, hsplit, hfront, hback⟩ := exists_split_of_latest h
  obtain ⟨before, others, hsources, hbefore, hothers⟩ := List.filterMap_eq_append_iff.1 hsplit
  obtain ⟨silent, s, after, rfl, hsilent, hs, hafter⟩ := List.filterMap_eq_cons_iff.1 hothers
  obtain ⟨r, hr, rfl⟩ := Option.map_eq_some_iff.1 hs
  refine ⟨s, ⟨hr, before ++ silent, after, by simp [hsources], ?_, ?_⟩, rfl⟩
  · intro s' hs' r' hr'
    rcases List.mem_append.1 hs' with hs' | hs'
    · refine hfront (s'.location, r') ?_
      rw [← hbefore]
      exact List.mem_filterMap.2 ⟨s', hs', by rw [hr']; rfl⟩
    · have hnone := hsilent s' hs'
      rw [hr'] at hnone
      cases hnone
  · intro s' hs' r' hr'
    refine hback (s'.location, r') ?_
    rw [← hafter]
    exact List.mem_filterMap.2 ⟨s', hs', by rw [hr']; rfl⟩

/-- A feed has a line to show as soon as one of its sources holds a record. -/
theorem latest_eq_none_iff_heldBy :
    latest (a.sources.filterMap fun s => (heldBy s).getLast?.map (s.location, ·)) = none ↔
      ∀ s ∈ a.sources, heldBy s = [] := by
  simp [latest_eq_none_iff, List.filterMap_eq_nil_iff]

/-- No line is shown exactly if no source holds a record. -/
theorem logLine_view_eq_none_iff
    (h : ∀ s ∈ a.sources, ∀ rows, s.slot = .rows rows → rows = s.gate.tree.records.toList) :
    logLine a.view = "no log lines yet" ↔ ∀ s ∈ a.sources, heldBy s = [] := by
  rw [← latest_eq_none_iff_heldBy, ← lastLines_view h, logLine_eq]
  cases latest (lastLines a.view) with
  | none => simp
  | some l => simpa using headline_ne_none l.1 l.2

/-- **The line shown** is that of the source that heads the feed. -/
theorem exists_heads_logLine
    (h : ∀ s ∈ a.sources, ∀ rows, s.slot = .rows rows → rows = s.gate.tree.records.toList)
    (hs : s ∈ a.sources) (hsome : heldBy s ≠ []) :
    ∃ s r, Heads a s r ∧ logLine a.view = headline s.location r := by
  rw [logLine_eq, lastLines_view h]
  cases hlatest : latest (a.sources.filterMap fun s =>
      (heldBy s).getLast?.map (s.location, ·)) with
  | none => exact absurd (latest_eq_none_iff_heldBy.1 hlatest s hs) hsome
  | some l =>
    obtain ⟨s, hheads, hlocation⟩ := exists_heads hlatest
    exact ⟨s, l.2, hheads, by rw [hlocation]; rfl⟩

/-- The source that heads the feed does so with a newest record, exactly if some
source ends with one. -/
theorem Heads.newest_iff (h : Heads a s r) :
    (∀ s' ∈ a.sources, ∀ r' ∈ heldBy s', r'.time ≤ r.time) ↔
      ∃ s' ∈ a.sources, ∃ last, (heldBy s').getLast? = some last ∧
        ∀ s'' ∈ a.sources, ∀ r' ∈ heldBy s'', r'.time ≤ last.time := by
  constructor
  · exact fun hgreatest => ⟨s, h.mem, r, h.last, hgreatest⟩
  · rintro ⟨s', hs', last, hlast, hgreatest⟩ s'' hs'' r' hr'
    exact le_trans (hgreatest s'' hs'' r' hr') (h.le hs' hlast)

/-! ## What the line can be held to -/

/-- **What the line of the log feed can be held to** after some events. -/
structure Headed (cutoff : Option Time.Instant) (es : List (Aggregate.Event Log.Entry))
    (a : Aggregate Log.Entry Log.Tail Log.Record) : Prop where
  /-- There is none exactly if no source that shows rows holds a record. -/
  silent : logLine a.view = "no log lines yet" ↔ ∀ s ∈ a.sources, heldBy s = []
  /-- Otherwise it is the line of the source that heads the feed. -/
  spoken : (∃ s ∈ a.sources, heldBy s ≠ []) →
    ∃ s r, Heads a s r ∧ logLine a.view = headline s.location r
  /-- A newer record came in the same batch as the last one of its source, and
  before it. -/
  newer : ∀ s r, Heads a s r → ∀ i s', a.sources[i]? = some s' → ∀ r' ∈ heldBy s',
    r.time < r'.time → ∃ last, (heldBy s').getLast? = some last ∧ last.time < r'.time ∧
      ∃ batch ∈ Gate.merged (Log.merge cutoff) false (Aggregate.actions i es),
        [r'.entry, last.entry].Sublist batch
  /-- So the line is that of a newest record if all batches that were merged are
  in order of time, -/
  ordered : (∀ i < a.sources.length,
      ∀ batch ∈ Gate.merged (Log.merge cutoff) false (Aggregate.actions i es),
        (batch.filterMap fun e => Time.Instant.ofStamp? e.time).Pairwise (· ≤ ·)) →
    ∀ s r, Heads a s r → ∀ s' ∈ a.sources, ∀ r' ∈ heldBy s', r'.time ≤ r.time
  /-- and exactly if some source ends with a newest one. -/
  exact : ∀ s r, Heads a s r → ((∀ s' ∈ a.sources, ∀ r' ∈ heldBy s', r'.time ≤ r.time) ↔
    ∃ s' ∈ a.sources, ∃ last, (heldBy s').getLast? = some last ∧
      ∀ s'' ∈ a.sources, ∀ r' ∈ heldBy s'', r'.time ≤ last.time)

/-- Two lines of a batch in order of time are in this order. -/
theorem time_le_of_sublist {batch : List Log.Entry} {e e' : Log.Entry} {t t' : Time.Instant}
    (hbatch : (batch.filterMap fun e => Time.Instant.ofStamp? e.time).Pairwise (· ≤ ·))
    (h : [e, e'].Sublist batch) (ht : Time.Instant.ofStamp? e.time = some t)
    (ht' : Time.Instant.ofStamp? e'.time = some t') : t ≤ t' := by
  have hpair := (List.pairwise_filterMap.1 hbatch).sublist h
  exact List.rel_of_pairwise_cons hpair (List.mem_singleton_self e') t ht t' ht'

section Held

variable {cutoff : Option Time.Instant} {batches : List (List Log.Entry)}

/-- A source that holds a record shows rows, and holds what its tail does. -/
theorem heldBy_eq_of_mem (hr : r ∈ heldBy s) : heldBy s = s.gate.tree.records.toList := by
  unfold heldBy at hr ⊢
  cases hslot : s.slot with
  | rows rows => rfl
  | _ => simp [hslot] at hr

/-- The records held have the times of their lines. -/
theorem time_of_mem_heldBy
    (h : s.gate.tree = (Log.merge cutoff).replay (Log.merge cutoff).initial batches)
    (hr : r ∈ heldBy s) : Time.Instant.ofStamp? r.entry.time = some r.time := by
  rw [heldBy_eq_of_mem hr, h] at hr
  exact Log.Tail.timed_empty.replay batches r hr

/-- A record newer than the one that heads the feed came before the last one of
its source, in the same batch. -/
theorem Heads.sent_before_last (h : Heads a s r) {s' : Source Log.Entry Log.Tail Log.Record}
    (hs' : s' ∈ a.sources)
    (htree : s'.gate.tree = (Log.merge cutoff).replay (Log.merge cutoff).initial batches)
    {r' : Log.Record} (hr' : r' ∈ heldBy s') (hlt : r.time < r'.time) :
    ∃ last, (heldBy s').getLast? = some last ∧ last.time < r'.time ∧
      ∃ batch ∈ batches, [r'.entry, last.entry].Sublist batch := by
  obtain ⟨last, hlast⟩ := Option.isSome_iff_exists.1
    (List.getLast?_isSome.2 (List.ne_nil_of_mem hr'))
  have hbefore : last.time < r'.time := lt_of_le_of_lt (h.le hs' hlast) hlt
  refine ⟨last, hlast, hbefore, ?_⟩
  obtain ⟨layers, hlayers⟩ := Log.Tail.exists_layers cutoff batches
  rw [heldBy_eq_of_mem hr', htree] at hlast hr'
  exact hlayers.sent_before_last hr' hlast hbefore

/-- So a source has nothing newer, if its batches are in order of time. -/
theorem Heads.le_of_ordered (h : Heads a s r) {s' : Source Log.Entry Log.Tail Log.Record}
    (hs' : s' ∈ a.sources)
    (htree : s'.gate.tree = (Log.merge cutoff).replay (Log.merge cutoff).initial batches)
    (hordered : ∀ batch ∈ batches,
      (batch.filterMap fun e => Time.Instant.ofStamp? e.time).Pairwise (· ≤ ·))
    {r' : Log.Record} (hr' : r' ∈ heldBy s') : r'.time ≤ r.time := by
  by_contra hlt
  obtain ⟨last, hlast, hbefore, batch, hbatch, hsub⟩ :=
    h.sent_before_last hs' htree hr' (not_le.1 hlt)
  have hle : r'.time ≤ last.time := time_le_of_sublist (hordered batch hbatch) hsub
    (time_of_mem_heldBy htree hr') (time_of_mem_heldBy htree (List.mem_of_getLast? hlast))
  exact not_le.2 hbefore hle

end Held

/-- It is enough that the sources show what they have, and follow their gates. -/
theorem Headed.of {cutoff : Option Time.Instant} {es : List (Aggregate.Event Log.Entry)}
    (hsettled : ∀ i s, a.sources[i]? = some s → Aggregate.Source.Settled (Log.merge cutoff)
      logs.rows (Aggregate.failures i es) s)
    (hfollows : ∀ i s, a.sources[i]? = some s → Aggregate.Source.Follows (Log.merge cutoff)
      logs.rows (Aggregate.failures i es) (Aggregate.actions i es) s) :
    Headed cutoff es a := by
  have hshown : ∀ s ∈ a.sources, ∀ rows, s.slot = .rows rows →
      rows = s.gate.tree.records.toList := by
    intro s hs rows hrows
    obtain ⟨i, hi⟩ := List.getElem?_of_mem hs
    exact ((hsettled i s hi).shown rows hrows).1
  have htree : ∀ (i : Nat) s, a.sources[i]? = some s → s.gate.tree = (Log.merge cutoff).replay
      (Log.merge cutoff).initial (Gate.merged (Log.merge cutoff) false (Aggregate.actions i es)) := by
    intro i s hs
    rw [(hfollows i s hs).gate]
    exact Gate.tree_run _
  exact {
    silent := logLine_view_eq_none_iff hshown
    spoken := fun ⟨s, hs, hsome⟩ => exists_heads_logLine hshown hs hsome
    newer := fun s r hheads i s' hs' r' hr' =>
      hheads.sent_before_last (List.mem_of_getElem? hs') (htree i s' hs') hr'
    ordered := by
      intro hordered s r hheads s' hs' r' hr'
      obtain ⟨i, hi⟩ := List.getElem?_of_mem hs'
      exact hheads.le_of_ordered hs' (htree i s' hi)
        (hordered i (List.getElem?_eq_some_iff.1 hi).1) hr'
    exact := fun _ _ hheads => hheads.newest_iff }

/-- **The log feed can be held to its line at every moment of every run.** -/
theorem headed_logs (cutoff : Option Time.Instant) (plan : Location → Connection.Plan Log.Entry)
    (locations : List Location) (es : List (Nat × Aggregate.Live.Event Log.Entry)) :
    let c := Aggregate.Chronicle.of ⟨logs.merge cutoff, logs.rows, plan⟩ locations es
    Headed cutoff c.heard c.live.board := by
  intro c
  let s : Aggregate.Setting Log.Entry Log.Tail Log.Record Log.Skip :=
    ⟨logs.merge cutoff, logs.rows, plan⟩
  have hs : s.merge.Candid := Log.merge_candid cutoff
  exact .of (Aggregate.coherent_chronicle hs locations es).settled
    (Aggregate.follows_chronicle s locations es)

/-- A batch that is out of order: the line shown is that of its last record, which
is the older one. -/
theorem late_and_untold :
    let line := fun time message => Log.Entry.mk time "Info" "server" "main" message none
    let a : Aggregate Log.Entry Log.Tail Log.Record := .fresh (logs.merge none) [⟨"A", none⟩]
    let batch := [line "2024-05-01T10:00:02Z" "late", line "2024-05-01T10:00:01Z" "early"]
    let after := (a.steps (logs.merge none) logs.rows [.gate 0 (.push batch)]).1
    logLine after.view = "[A] Info main: early" ∧
      (after.sources.flatMap heldBy).map (·.entry.message) = ["late", "early"] ∧
      ((after.sources.flatMap heldBy).map Log.Record.time).Pairwise fun t t' => t' < t := by
  decide +kernel

end Feed

end Telemetry
