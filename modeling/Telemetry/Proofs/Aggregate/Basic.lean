import Telemetry.Aggregate.Basic
import Telemetry.Proofs.Gate
/-!
# Aggregate — what is shown is what is there

An overview is made from what the gates announce and from the failures
that are reported, never from the trees themselves. Still it says what the
trees hold: a source that shows rows shows those of the tree it has now,
and a source that shows nothing has had nothing to show (`Source.Settled`).
This needs a merge that is candid: a tree that changed in silence would be
shown as it was before.

The invariant speaks of one source at a time, for an event changes the
source at its index and no other (`getElem?_step`). With what an event
shows (`view_step`) it gives what holds of all sources after any events
(`coherent_steps`).
-/

namespace Telemetry

/-! ## Readiness -/

namespace Overview

variable {ρ : Type} {o : Overview ρ}

theorem reported_eq_zero : o.reported = 0 ↔ ∀ s ∈ o.sources, s.2.isReported = false := by
  simp [reported, List.countP_eq_zero]

theorem reported_eq_length :
    o.reported = o.sources.length ↔ ∀ s ∈ o.sources, s.2.isReported = true :=
  List.countP_eq_length

theorem readiness_eq_empty :
    o.readiness = .empty ↔ ∀ s ∈ o.sources, s.2.isReported = false := by
  rw [← reported_eq_zero, readiness]
  split
  · next hnone => simp [hnone]
  · next hsome => split <;> simp [hsome]

theorem readiness_eq_complete :
    o.readiness = .complete ↔ o.sources ≠ [] ∧ ∀ s ∈ o.sources, s.2.isReported = true := by
  have hle : o.reported ≤ o.sources.length := List.countP_le_length
  rw [← reported_eq_length, ← List.length_pos_iff, readiness]
  split
  · next hnone =>
    simp only [reduceCtorEq, false_iff]
    omega
  · split
    · simp only [reduceCtorEq, false_iff]
      omega
    · simp only [true_iff]
      omega

theorem readiness_eq_incomplete : o.readiness = .incomplete ↔
    (∃ s ∈ o.sources, s.2.isReported = true) ∧ ∃ s ∈ o.sources, s.2.isReported = false := by
  have hempty := readiness_eq_empty (o := o)
  have hcomplete := readiness_eq_complete (o := o)
  constructor
  · intro h
    rw [h] at hempty hcomplete
    simp only [reduceCtorEq, false_iff, not_forall] at hempty hcomplete
    obtain ⟨s, hs, hreported⟩ := hempty
    have hsome : o.sources ≠ [] := List.ne_nil_of_mem hs
    refine ⟨⟨s, hs, by simpa using hreported⟩, ?_⟩
    simpa [hsome] using hcomplete
  · rintro ⟨⟨s, hs, hreported⟩, ⟨s', hs', hsilent⟩⟩
    cases h : o.readiness with
    | empty => simp [hempty.1 h s hs] at hreported
    | complete => simp [(hcomplete.1 h).2 s' hs'] at hsilent
    | incomplete => rfl

end Overview

namespace Aggregate

variable {ι τ ρ ω : Type} {m : Merge ι τ ω} {rows : τ → List ρ}

/-! ## One source -/

/-- The reason an event gives for a failure of the source at an index. -/
def Event.failure? (i : Nat) : Event ι → Option String
  | .failed j reason => if j = i then some reason else none
  | _ => none

/-- The failures of a source among some events, by their reasons. -/
def failures (i : Nat) (es : List (Event ι)) : List String := es.filterMap (Event.failure? i)

theorem failures_snoc (i : Nat) (es : List (Event ι)) (e : Event ι) :
    failures i (es ++ [e]) = failures i es ++ (e.failure? i).toList := by
  cases h : e.failure? i <;> simp [failures, h]

namespace Source

variable {s : Source ι τ ρ} {reasons : List String}

/-- **A source shows what its gate announces**, unless it has given up. -/
theorem act_eq (s : Source ι τ ρ) (action : Gate.Action ι) :
    act m rows s action =
      let gate := (s.gate.act m action).1
      if s.gate.announces m action && !s.givenUp then
        ({ s with gate := gate, slot := .rows (rows gate.tree) }, true)
      else ({ s with gate := gate }, false) := by
  simp only [act]
  by_cases ha : s.gate.announces m action
  · have hnotice : (s.gate.act m action).2 = some (.merged (s.gate.act m action).1.tree) :=
      (Gate.notice_act_eq_merged m s.gate action).2 ⟨rfl, ha⟩
    by_cases hg : s.givenUp <;> simp [hnotice, ha, hg, Source.show]
  · cases hnotice : (s.gate.act m action).2 with
    | none => simp [ha]
    | some notice =>
      cases notice with
      | merged tree => exact absurd ((Gate.notice_act_eq_merged m s.gate action).1 hnotice).2 ha
      | heartbeat => simp [ha]

/-- **What an event leaves of the source at an index.** -/
def after (m : Merge ι τ ω) (rows : τ → List ρ) (i : Nat) (s : Source ι τ ρ) :
    Event ι → Source ι τ ρ
  | .gate j action => if j = i then (act m rows s action).1 else s
  | .failed j reason => if j = i then { s with slot := .noData reason, givenUp := true } else s
  | .renew => { s with givenUp := false }

@[simp] theorem location_after (i : Nat) (s : Source ι τ ρ) (e : Event ι) :
    (after m rows i s e).location = s.location := by
  cases e with
  | gate j action =>
    simp only [after, act_eq]
    split
    · split <;> rfl
    · rfl
  | failed j reason =>
    simp only [after]
    split <;> rfl
  | renew => rfl

/-- **A source is settled** if what it shows is what it has: nothing while
its tree is the first one, else the rows of its tree, or the reason of the
last failure. While it has given up it shows a reason. -/
structure Settled (m : Merge ι τ ω) (rows : τ → List ρ) (reasons : List String)
    (s : Source ι τ ρ) : Prop where
  pending : s.slot = .pending → s.gate.tree = m.initial
  shown : ∀ r, s.slot = .rows r → r = rows s.gate.tree ∧ s.givenUp = false
  noData : ∀ reason, s.slot = .noData reason → reasons.getLast? = some reason
  givenUp : s.givenUp = true → ∃ reason, s.slot = .noData reason

/-- Whatever is done to its gate, a source stays settled. -/
theorem Settled.act (hm : m.Candid) (h : Settled m rows reasons s) (action : Gate.Action ι) :
    Settled m rows reasons (act m rows s action).1 := by
  rw [act_eq]
  by_cases ha : s.gate.announces m action
  · by_cases hg : s.givenUp
    · -- the tree may have changed, but it is not rows that are shown
      obtain ⟨reason, hslot⟩ := h.givenUp hg
      simp only [ha, hg, Bool.not_true, Bool.and_false, Bool.false_eq_true, if_false]
      exact ⟨by simp [hslot], by simp [hslot], h.noData, fun _ => ⟨reason, hslot⟩⟩
    · simp only [ha, hg, Bool.not_false, Bool.and_self, if_true]
      refine ⟨by simp, fun r hr => ?_, by simp, by simp⟩
      obtain rfl := Slot.rows.inj hr
      exact ⟨rfl, by simp⟩
  · have hsilent : s.gate.announces m action = false := by simpa using ha
    have htree := Gate.tree_act_of_silent m s.gate action hm hsilent
    simp only [hsilent, Bool.false_and, Bool.false_eq_true, if_false]
    refine ⟨fun hslot => ?_, fun r hr => ?_, h.noData, h.givenUp⟩
    · exact htree.trans (h.pending hslot)
    · rw [htree]
      exact h.shown r hr

/-- **An event leaves a source settled.** -/
theorem Settled.after (hm : m.Candid) {i : Nat} (h : Settled m rows reasons s) (e : Event ι) :
    Settled m rows (reasons ++ (e.failure? i).toList) (after m rows i s e) := by
  cases e with
  | gate j action =>
    simp only [Source.after, Event.failure?, Option.toList_none, List.append_nil]
    split
    · exact h.act hm action
    · exact h
  | failed j reason =>
    by_cases hj : j = i
    · simp only [Source.after, Event.failure?, hj, if_true, Option.toList_some]
      refine ⟨by simp, by simp, fun r hr => ?_, fun _ => ⟨reason, rfl⟩⟩
      obtain rfl := Slot.noData.inj hr
      simp
    · simpa [Source.after, Event.failure?, hj] using h
  | renew =>
    simp only [Source.after, Event.failure?, Option.toList_none, List.append_nil]
    exact ⟨h.pending, fun r hr => ⟨(h.shown r hr).1, rfl⟩, h.noData, by simp⟩

end Source

/-! ## One event -/

/-- **An event changes the source at its index and no other.** -/
theorem getElem?_step (a : Aggregate ι τ ρ) (e : Event ι) (i : Nat) :
    (a.step m rows e).1.sources[i]? = (a.sources[i]?).map (Source.after m rows i · e) := by
  have hmodify : ∀ (j : Nat) (f : Source ι τ ρ → Source ι τ ρ),
      ((a.sources[j]?).elim a fun s => a.set j (f s)).sources[i]? =
        (a.sources[i]?).map fun s => if j = i then f s else s := by
    intro j f
    rw [← Option.map_eq_map, ← List.getElem?_modify, List.modify_eq_set_getElem?]
    cases a.sources[j]? <;> rfl
  cases e with
  | gate j action =>
    refine Eq.trans ?_ (hmodify j fun s => (Source.act m rows s action).1)
    simp only [step]
    cases a.sources[j]? <;> rfl
  | failed j reason =>
    refine Eq.trans ?_ (hmodify j fun s => { s with slot := .noData reason, givenUp := true })
    simp only [step]
    cases a.sources[j]? <;> rfl
  | renew => simp [step, Source.after]

/-- What is shown of a source that takes the place of another one is an update
of its slot. -/
theorem view_set {a : Aggregate ι τ ρ} {j : Nat} {s s' : Source ι τ ρ}
    (hj : a.sources[j]? = some s) (h : s'.location = s.location) :
    (a.set j s').view = a.view.update j s'.slot := by
  have hview : (a.view.sources)[j]? = some (s.location, s.slot) := by
    rw [view, List.getElem?_map, hj, Option.map_some]
  rw [Overview.update, List.modify_eq_set_getElem?, hview]
  simp only [view, set, List.map_set, h, Option.map_eq_map, Option.map_some, Option.getD_some]

/-- An update to what is shown already changes nothing. -/
theorem update_view {a : Aggregate ι τ ρ} {j : Nat} {s : Source ι τ ρ}
    (hj : a.sources[j]? = some s) : a.view.update j s.slot = a.view := by
  obtain ⟨hlt, rfl⟩ := List.getElem?_eq_some_iff.1 hj
  rw [← view_set hj rfl, set, List.set_getElem_self]

/-- **An event updates the slot of one source** and shows the overview, or it
leaves the overview as it was and shows nothing. -/
theorem step_eq_update (m : Merge ι τ ω) (rows : τ → List ρ) (a : Aggregate ι τ ρ) (e : Event ι) :
    (∃ j slot, (a.step m rows e).1.view = a.view.update j slot ∧
      (a.step m rows e).2 = some (a.view.update j slot)) ∨
    (a.step m rows e).1.view = a.view ∧ (a.step m rows e).2 = none := by
  cases e with
  | gate j action =>
    simp only [step]
    cases hj : a.sources[j]? with
    | none => exact .inr ⟨rfl, rfl⟩
    | some s =>
      simp only [Source.act_eq]
      by_cases hshown : (s.gate.announces m action && !s.givenUp) = true
      · simp only [hshown, if_true, Option.some_inj]
        exact .inl ⟨j, _, view_set hj rfl, view_set hj rfl⟩
      · simp only [hshown, Bool.false_eq_true, if_false]
        -- the gate may have moved, but the slot is the same
        let s' : Source ι τ ρ := { s with gate := (s.gate.act m action).1 }
        have hview : (a.set j s').view = a.view.update j s.slot := view_set hj rfl
        exact .inr ⟨hview.trans (update_view hj), trivial⟩
  | failed j reason =>
    simp only [step]
    cases hj : a.sources[j]? with
    | none => exact .inr ⟨rfl, rfl⟩
    | some s => exact .inl ⟨j, _, view_set hj rfl, congrArg some (view_set hj rfl)⟩
  | renew => exact .inr ⟨by simp [step, view], rfl⟩

/-- So it shows the overview it leaves, if it shows one. -/
theorem view_step (a : Aggregate ι τ ρ) (e : Event ι) :
    (a.step m rows e).1.view = ((a.step m rows e).2).getD a.view := by
  obtain ⟨j, slot, hview, hshown⟩ | ⟨hview, hshown⟩ := step_eq_update m rows a e
  · rw [hview, hshown, Option.getD_some]
  · rw [hview, hshown, Option.getD_none]

/-! ## Any events -/

theorem steps_append (a : Aggregate ι τ ρ) (es es' : List (Event ι)) :
    a.steps m rows (es ++ es') =
      ((steps m rows (a.steps m rows es).1 es').1,
        (a.steps m rows es).2 ++ (steps m rows (a.steps m rows es).1 es').2) := by
  induction es generalizing a with
  | nil => rfl
  | cons e rest ih =>
    simp only [List.cons_append, steps]
    rw [ih]
    simp

theorem steps_snoc (a : Aggregate ι τ ρ) (es : List (Event ι)) (e : Event ι) :
    a.steps m rows (es ++ [e]) =
      ((step m rows (a.steps m rows es).1 e).1,
        (a.steps m rows es).2 ++ (step m rows (a.steps m rows es).1 e).2.toList) := by
  rw [steps_append]
  simp [steps]

/-- **Events leave of a source** what they leave of it one after the other. -/
theorem getElem?_steps (a : Aggregate ι τ ρ) (es : List (Event ι)) (i : Nat) :
    (a.steps m rows es).1.sources[i]? =
      (a.sources[i]?).map fun s => es.foldl (Source.after m rows i) s := by
  induction es generalizing a with
  | nil => simp [steps]
  | cons e rest ih =>
    have hrest := ih (a.step m rows e).1
    rw [getElem?_step, Option.map_map] at hrest
    exact hrest

/-- No source is moved, added or taken away. -/
theorem map_location_steps (a : Aggregate ι τ ρ) (es : List (Event ι)) :
    (a.steps m rows es).1.sources.map Source.location = a.sources.map Source.location := by
  have hkept : ∀ (i : Nat) (s : Source ι τ ρ),
      (es.foldl (Source.after m rows i) s).location = s.location := by
    intro i s
    induction es generalizing s with
    | nil => rfl
    | cons e es ih => exact (ih _).trans (Source.location_after i s e)
  refine List.ext_getElem? fun i => ?_
  rw [List.getElem?_map, List.getElem?_map, getElem?_steps, Option.map_map]
  simp only [Function.comp_def, hkept]

theorem locations_steps (locations : List Location) (es : List (Event ι)) :
    ((fresh m locations).steps m rows es).1.sources.map Source.location = locations := by
  rw [map_location_steps]
  simp [fresh, Function.comp_def]

/-- **Every source is settled after any events**, with the failures that were
its own among them. -/
theorem settled_steps (hm : m.Candid) (locations : List Location) (es : List (Event ι)) (i : Nat)
    (s : Source ι τ ρ) (hs : ((fresh m locations).steps m rows es).1.sources[i]? = some s) :
    Source.Settled m rows (failures i es) s := by
  induction es using List.reverseRecOn generalizing s with
  | nil =>
    simp only [steps, fresh, List.getElem?_map, Option.map_eq_some_iff] at hs
    obtain ⟨l, -, rfl⟩ := hs
    exact ⟨fun _ => rfl, by simp, by simp, by simp⟩
  | append_singleton es e ih =>
    rw [steps_snoc, getElem?_step, Option.map_eq_some_iff] at hs
    obtain ⟨s, hs, rfl⟩ := hs
    rw [failures_snoc]
    exact (ih s hs).after hm e

/-- **The last overview shown is still right**; before the first one nothing
has been reported. -/
theorem shown_steps (locations : List Location) (es : List (Event ι)) :
    ((fresh m locations).steps m rows es).2.getLast? =
        some ((fresh m locations).steps m rows es).1.view ∨
      ((fresh m locations).steps m rows es).2 = [] ∧
        ((fresh m locations).steps m rows es).1.view = .pending locations := by
  induction es using List.reverseRecOn with
  | nil => exact .inr ⟨rfl, by simp [steps, fresh, view, Overview.pending]⟩
  | append_singleton es e ih =>
    rw [steps_snoc]
    generalize ((fresh m locations).steps m rows es).1 = a at ih ⊢
    have hview : (a.step m rows e).1.view = ((a.step m rows e).2).getD a.view := view_step a e
    cases hshown : (a.step m rows e).2 with
    | none =>
      -- nothing is shown, and the overview is the one before
      rw [hshown, Option.getD_none] at hview
      simpa [hview] using ih
    | some o =>
      rw [hshown, Option.getD_some] at hview
      exact .inl (by simp [hview])

/-- **How many sources have reported** need not be counted again before the next
overview is shown: it is as it was counted for the last one. -/
theorem readiness_steps (locations : List Location) (es : List (Event ι)) :
    ((fresh m locations).steps m rows es).1.view.readiness =
      ((((fresh m locations).steps m rows es).2.getLast?).map Overview.readiness).getD .empty := by
  obtain hshown | ⟨hnone, hview⟩ := @shown_steps _ _ _ _ m rows locations es
  · rw [hshown, Option.map_some, Option.getD_some]
  · rw [hnone, hview]
    exact Overview.readiness_eq_empty.2 (by simp [Overview.pending, Slot.isReported])

/-- **An aggregate is coherent** with its locations, the events it has seen
and the overviews it has shown. -/
structure Coherent (m : Merge ι τ ω) (rows : τ → List ρ) (locations : List Location)
    (es : List (Event ι)) (a : Aggregate ι τ ρ) (shown : List (Overview ρ)) : Prop where
  /-- The locations are listed as they were given. -/
  locations : a.view.sources.map Prod.fst = locations
  /-- The overview is empty if no source has reported, -/
  empty : a.view.readiness = .empty ↔ ∀ s ∈ a.sources, s.slot.isReported = false
  /-- complete if there are sources and all have, -/
  complete : a.view.readiness = .complete ↔
    a.sources ≠ [] ∧ ∀ s ∈ a.sources, s.slot.isReported = true
  /-- and incomplete if some have and some have not. -/
  incomplete : a.view.readiness = .incomplete ↔
    (∃ s ∈ a.sources, s.slot.isReported = true) ∧ ∃ s ∈ a.sources, s.slot.isReported = false
  /-- Each source shows what it has. -/
  settled : ∀ i s, a.sources[i]? = some s → Source.Settled m rows (failures i es) s
  /-- The overview is the last one shown; as long as none was, nothing has
  been reported. -/
  shown : shown.getLast? = some a.view ∨ shown = [] ∧ ∀ s ∈ a.sources, s.slot = .pending

/-- For the rest an aggregate is coherent by itself: it counts its sources
whenever it is looked at. -/
theorem Coherent.of {locations : List Location} {es : List (Event ι)} {a : Aggregate ι τ ρ}
    {shown : List (Overview ρ)} (hlocations : a.sources.map Source.location = locations)
    (hsettled : ∀ i s, a.sources[i]? = some s → Source.Settled m rows (failures i es) s)
    (hshown : shown.getLast? = some a.view ∨ shown = [] ∧ a.view = .pending locations) :
    Coherent m rows locations es a shown where
  locations := by simpa [view, Function.comp_def] using hlocations
  empty := by simp [Overview.readiness_eq_empty, view]
  complete := by simp [Overview.readiness_eq_complete, view]
  incomplete := by simp [Overview.readiness_eq_incomplete, view]
  settled := hsettled
  shown := by
    refine hshown.imp_right fun ⟨hnone, hview⟩ => ⟨hnone, fun s hs => ?_⟩
    have hmem : (s.location, s.slot) ∈ a.view.sources := List.mem_map_of_mem hs
    rw [hview] at hmem
    obtain ⟨l, -, hl⟩ := List.mem_map.1 hmem
    exact (Prod.mk.inj hl).2.symm

/-- **What the sources show is coherent after any events**, if the merge is
candid. -/
theorem coherent_steps (hm : m.Candid) (locations : List Location) (es : List (Event ι)) :
    Coherent m rows locations es ((fresh m locations).steps m rows es).1
      ((fresh m locations).steps m rows es).2 :=
  .of (locations_steps locations es) (settled_steps hm locations es) (shown_steps locations es)

end Aggregate

end Telemetry
