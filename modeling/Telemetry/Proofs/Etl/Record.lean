import Telemetry.Etl.Tree
import Telemetry.Proofs.Catalog
import Telemetry.Proofs.Merge
/-!
# Etl — what a record owes to its run

A run `survives` a cutoff when its stamps can be read and it started
past the cutoff; `kept?` is the record a surviving run leaves. Everything
a record holds but its destination follows from the run, so a run that
is equal to the one a record holds derives the same record
(`derive_congr`).
-/

namespace Telemetry

namespace Etl

/-! ## Equality of runs -/

instance : ReflBEq Binary64 where
  rfl {x} := by simp [BEq.beq]

/-- Two numbers are equal if they are the same, or zeros of either sign. -/
theorem beq_binary64_iff {x y : Binary64} :
    (x == y) = true ↔ x = y ∨ x.isZero = true ∧ y.isZero = true := by
  change (decide (x = y) || (x.isZero && y.isZero)) = true ↔ _
  simp

instance : PartialEquivBEq Binary64 where
  symm h := by
    rw [beq_binary64_iff] at h ⊢
    exact h.imp Eq.symm And.symm
  trans h h' := by
    rw [beq_binary64_iff] at h h' ⊢
    rcases h with rfl | ⟨hx, hy⟩
    · exact h'
    · rcases h' with rfl | ⟨-, hz⟩
      · exact .inr ⟨hx, hy⟩
      · exact .inr ⟨hx, hz⟩

mutual

theorem Operation.beq_refl (o : Operation) : o.beq o = true := by
  cases o with
  | mk n d os => simp [Operation.beq, Operation.beqList_refl os]

theorem Operation.beqList_refl (os : List Operation) : Operation.beqList os os = true := by
  cases os with
  | nil => rfl
  | cons o os => simp [Operation.beqList, Operation.beq_refl o, Operation.beqList_refl os]

end

mutual

theorem Operation.beq_symm {o o' : Operation} (h : o.beq o' = true) : o'.beq o = true := by
  cases o with
  | mk n d os =>
    cases o' with
    | mk n' d' os' =>
      simp only [Operation.beq, Bool.and_eq_true, beq_iff_eq] at h ⊢
      obtain ⟨⟨hn, hd⟩, hos⟩ := h
      exact ⟨⟨hn.symm, BEq.symm hd⟩, Operation.beqList_symm hos⟩

theorem Operation.beqList_symm {os os' : List Operation} (h : Operation.beqList os os' = true) :
    Operation.beqList os' os = true := by
  cases os with
  | nil => cases os' with
    | nil => rfl
    | cons o' os' => simp [Operation.beqList] at h
  | cons o os => cases os' with
    | nil => simp [Operation.beqList] at h
    | cons o' os' =>
      simp only [Operation.beqList, Bool.and_eq_true] at h ⊢
      exact ⟨Operation.beq_symm h.1, Operation.beqList_symm h.2⟩

end

mutual

theorem Operation.beq_trans {o o' o'' : Operation} (h : o.beq o' = true) (h' : o'.beq o'' = true) :
    o.beq o'' = true := by
  cases o with
  | mk n d os =>
    cases o' with
    | mk n' d' os' =>
      cases o'' with
      | mk n'' d'' os'' =>
        simp only [Operation.beq, Bool.and_eq_true, beq_iff_eq] at h h' ⊢
        obtain ⟨⟨hn, hd⟩, hos⟩ := h
        obtain ⟨⟨hn', hd'⟩, hos'⟩ := h'
        exact ⟨⟨hn.trans hn', BEq.trans hd hd'⟩, Operation.beqList_trans hos hos'⟩

theorem Operation.beqList_trans {os os' os'' : List Operation}
    (h : Operation.beqList os os' = true) (h' : Operation.beqList os' os'' = true) :
    Operation.beqList os os'' = true := by
  cases os with
  | nil => cases os' with
    | nil => exact h'
    | cons o' os' => simp [Operation.beqList] at h
  | cons o os => cases os' with
    | nil => simp [Operation.beqList] at h
    | cons o' os' => cases os'' with
      | nil => simp [Operation.beqList] at h'
      | cons o'' os'' =>
        simp only [Operation.beqList, Bool.and_eq_true] at h h' ⊢
        exact ⟨Operation.beq_trans h.1 h'.1, Operation.beqList_trans h.2 h'.2⟩

end

instance : EquivBEq Operation where
  rfl {o} := o.beq_refl
  symm h := Operation.beq_symm h
  trans h h' := Operation.beq_trans h h'

/-- What may be missing is compared as an equivalence if what is there is. -/
instance partialEquivBEq_option {α : Type} [BEq α] [PartialEquivBEq α] :
    PartialEquivBEq (Option α) where
  symm {a b} h := by
    cases a <;> cases b
    case some.some a b => exact BEq.symm (a := a) (b := b) h
    all_goals simp_all
  trans {a b c} h h' := by
    cases a <;> cases b <;> cases c
    case some.some.some a b c => exact BEq.trans (a := a) (b := b) (c := c) h h'
    all_goals simp_all

/-- Runs are compared part by part. -/
theorem Stats.beq_eq (s s' : Stats) :
    (s == s') = (s.id == s'.id && (s.started == s'.started && (s.completed == s'.completed &&
      (s.durationInMs == s'.durationInMs && (s.extractedItems == s'.extractedItems &&
      (s.transformedItems == s'.transformedItems && (s.loadedItems == s'.loadedItems &&
      (s.transformationErrors == s'.transformationErrors &&
      (s.successfullyLoaded == s'.successfullyLoaded &&
      (s.transformationCompleteReason == s'.transformationCompleteReason &&
      (s.stopReason == s'.stopReason && s.details == s'.details))))))))))) := rfl

/-- **Equality of runs is an equivalence**, though it is not identity: the
zeros of a duration are equal. -/
instance : EquivBEq Stats where
  rfl {s} := by simp [Stats.beq_eq]
  symm {s s'} h := by
    rw [Stats.beq_eq, Bool.and_eq_true] at h ⊢
    simp only [Bool.and_eq_true, beq_iff_eq] at h ⊢
    obtain ⟨h1, h2, h3, h4, h5, h6, h7, h8, h9, h10, h11, h12⟩ := h
    exact ⟨h1.symm, h2.symm, h3.symm, BEq.symm h4, h5.symm, h6.symm, h7.symm, h8.symm, h9.symm,
      h10.symm, h11.symm, BEq.symm h12⟩
  trans {s s' s''} h h' := by
    rw [Stats.beq_eq] at h h' ⊢
    simp only [Bool.and_eq_true, beq_iff_eq] at h h' ⊢
    obtain ⟨h1, h2, h3, h4, h5, h6, h7, h8, h9, h10, h11, h12⟩ := h
    obtain ⟨k1, k2, k3, k4, k5, k6, k7, k8, k9, k10, k11, k12⟩ := h'
    exact ⟨h1.trans k1, h2.trans k2, h3.trans k3, BEq.trans h4 k4, h5.trans k5, h6.trans k6,
      h7.trans k7, h8.trans k8, h9.trans k9, h10.trans k10, h11.trans k11, BEq.trans h12 k12⟩

/-! ## Deriving -/

/-- Deriving a record reads the start, then the end if there is one. -/
theorem Record.derive_eq (s : Stats) (d : Destination) :
    Record.derive s d =
      match Time.Instant.ofStamp? s.started with
      | none => .error ⟨"Started", s.started⟩
      | some started =>
        match s.completed with
        | none => .ok ⟨s, started, none, s.successfullyLoaded == some false,
            decide (0 < s.transformationErrors), d⟩
        | some value =>
          match Time.Instant.ofStamp? value with
          | none => .error ⟨"Completed", value⟩
          | some ended => .ok ⟨s, started, some ended, s.successfullyLoaded == some false,
              decide (0 < s.transformationErrors), d⟩ := by
  unfold Record.derive Record.readStamp
  cases Time.Instant.ofStamp? s.started with
  | none => rfl
  | some started =>
    cases s.completed with
    | none => rfl
    | some value => cases h : Time.Instant.ofStamp? value <;> simp only [h] <;> rfl

/-- A record holds its run and is sent where its task sends data. -/
theorem Record.of_derive {s : Stats} {d : Destination} {r : Record}
    (h : Record.derive s d = .ok r) : r.stats = s ∧ r.destination = d := by
  rw [Record.derive_eq] at h
  split at h
  · cases h
  · split at h
    · cases h
      exact ⟨rfl, rfl⟩
    · split at h
      · cases h
      · cases h
        exact ⟨rfl, rfl⟩

/-- **Equal runs derive equal records**, up to the run itself and the
destination. -/
theorem Record.derive_congr {s s' : Stats} {d : Destination} {r : Record} (hs : (s == s') = true)
    (h : Record.derive s d = .ok r) (d' : Destination) :
    Record.derive s' d' = .ok { r with stats := s', destination := d' } := by
  rw [Stats.beq_eq] at hs
  simp only [Bool.and_eq_true, beq_iff_eq] at hs
  obtain ⟨-, hstarted, hcompleted, -, -, -, -, herrors, hloaded, -⟩ := hs
  rw [Record.derive_eq] at h ⊢
  rw [← hstarted, ← hcompleted, ← herrors, ← hloaded]
  cases hst : Time.Instant.ofStamp? s.started with
  | none => simp [hst] at h
  | some started =>
    cases hc : s.completed with
    | none =>
      simp only [hst, hc] at h ⊢
      cases h
      rfl
    | some value =>
      cases he : Time.Instant.ofStamp? value with
      | none => simp [hst, hc, he] at h
      | some ended =>
        simp only [hst, hc, he] at h ⊢
        cases h
        rfl

/-! ## Surviving -/

/-- Whether a run leaves a record: its stamps can be read, that of its
end only if there is one, and it started past the cutoff. -/
def Stats.survives (cutoff : Option Time.Instant) (s : Stats) : Bool :=
  (Time.Instant.ofStamp? s.started).any fun started =>
    s.completed.all (fun value => (Time.Instant.ofStamp? value).isSome) &&
      cutoff.all (fun c => decide (c < started))

/-- The record a run leaves, if it leaves one. -/
def Record.kept? (cutoff : Option Time.Instant) (d : Destination) (s : Stats) : Option Record :=
  match Record.derive s d with
  | .error _ => none
  | .ok r => if r.startedAt.past cutoff then some r else none

/-- **A run leaves a record exactly when it survives.** -/
theorem Record.isSome_kept? (cutoff : Option Time.Instant) (d : Destination) (s : Stats) :
    (Record.kept? cutoff d s).isSome = s.survives cutoff := by
  unfold Record.kept? Stats.survives
  rw [Record.derive_eq]
  cases Time.Instant.ofStamp? s.started with
  | none => rfl
  | some started =>
    cases s.completed with
    | none => by_cases hc : cutoff.all (fun c => decide (c < started)) <;>
        simp [Time.Instant.past_eq_all, hc]
    | some value =>
      cases h : Time.Instant.ofStamp? value with
      | none => simp [h]
      | some ended => by_cases hc : cutoff.all (fun c => decide (c < started)) <;>
          simp [h, Time.Instant.past_eq_all, hc]

/-- What is kept of a run is the record derived from it. -/
theorem Record.derive_of_kept? {cutoff : Option Time.Instant} {d : Destination} {s : Stats}
    {r : Record} (h : Record.kept? cutoff d s = some r) : Record.derive s d = .ok r := by
  unfold Record.kept? at h
  split at h
  · cases h
  · next r' hr' =>
    split at h
    · rw [hr', Option.some.inj h]
    · cases h

/-- **The runs of the records kept are the survivors**, in order. -/
theorem Record.map_stats_kept? (cutoff : Option Time.Instant) (d : Destination)
    (runs : List Stats) :
    (runs.filterMap (Record.kept? cutoff d)).map Record.stats =
      runs.filter (Stats.survives cutoff) := by
  induction runs with
  | nil => rfl
  | cons s runs ih =>
    have hs := Record.isSome_kept? cutoff d s
    cases h : Record.kept? cutoff d s with
    | none =>
      rw [h] at hs
      rw [List.filterMap_cons_none h, ih, List.filter_cons_of_neg (by simp [← hs])]
    | some r =>
      rw [h] at hs
      rw [List.filterMap_cons_some h, List.map_cons, ih, List.filter_cons_of_pos hs.symm,
        (Record.of_derive (Record.derive_of_kept? h)).1]

/-! ## Taking the place of a record -/

/-- The record a number has after another record of it has come: the one
before, if it holds an equal run. -/
def Record.renew (r : Record) : Option Record → Record
  | none => r
  | some held => if held.stats == r.stats then held else r

theorem Record.id_renew {r : Record} {o : Option Record} (h : ∀ held ∈ o, held.id = r.id) :
    (r.renew o).id = r.id := by
  cases o with
  | none => rfl
  | some held =>
    rw [Record.renew]
    split
    · exact h held rfl
    · rfl

/-- A record that comes leaves its run held, or an equal one. -/
theorem Record.stats_renew (r : Record) (o : Option Record) :
    ((r.renew o).stats == r.stats) = true := by
  cases o with
  | none => exact BEq.rfl
  | some held =>
    rw [Record.renew]
    split
    · assumption
    · exact BEq.rfl

/-- **What is held after some records of one number** is one of them, with
a run equal to that of the last. -/
theorem Record.foldl_renew {rs : List Record} {r : Record}
    (h : Catalog.entry Record.renew none rs = some r) :
    r ∈ rs ∧ ∃ last, rs.getLast? = some last ∧ (r.stats == last.stats) = true := by
  refine Catalog.entry_induction
    (P := fun rs r => r ∈ rs ∧ ∃ last, rs.getLast? = some last ∧ (r.stats == last.stats) = true)
    (fun x => ⟨by simp [Record.renew], x, by simp, BEq.rfl⟩) (fun rs x held ih => ?_) h
  refine ⟨?_, x, by simp, Record.stats_renew x (some held)⟩
  rw [Record.renew]
  split
  · simp [ih.1]
  · simp

/-- **Records that come again, one after the other, leave what they left
before.** On the way another run may be held for a while: but if the last
record took the place of another run the first time, the record before it
has left an equal of that run the second time too. -/
theorem Record.entry_renew_twice (o : Option Record) (rs : List Record) :
    Catalog.entry Record.renew (Catalog.entry Record.renew o rs) rs =
      Catalog.entry Record.renew o rs := by
  induction rs using List.reverseRecOn with
  | nil => rfl
  | append_singleton rs r ih =>
    simp only [Catalog.entry_append, Catalog.entry_cons, Catalog.entry_nil]
    generalize hbefore : Catalog.entry Record.renew o rs = before at ih ⊢
    by_cases hkept : ∃ held, before = some held ∧ (held.stats == r.stats) = true
    · -- the last record found its run held, and so it does again
      obtain ⟨held, rfl, heq⟩ := hkept
      have hrenew : r.renew (some held) = held := by rw [Record.renew, if_pos heq]
      rw [hrenew, ih, hrenew]
    · -- the last record took a place, and it takes it again
      have hrenew : r.renew before = r := by
        cases before with
        | none => rfl
        | some held => rw [Record.renew, if_neg fun heq => hkept ⟨held, rfl, heq⟩]
      rw [hrenew]
      cases rs using List.reverseRecOn with
      | nil => simp [Record.renew]
      | append_singleton rs last =>
        simp only [Catalog.entry_append, Catalog.entry_cons, Catalog.entry_nil] at hbefore ⊢
        subst hbefore
        have hother : ((last.renew (Catalog.entry Record.renew (some r) rs)).stats == r.stats) =
            false := by
          refine Bool.eq_false_iff.2 fun heq => hkept ⟨_, rfl, ?_⟩
          have hlast := BEq.symm (last.stats_renew (Catalog.entry Record.renew (some r) rs))
          exact BEq.trans (last.stats_renew _) (BEq.trans hlast heq)
        rw [Record.renew, hother]
        rfl

end Etl

end Telemetry
