import Telemetry.Proofs.Aggregate.Live
import Telemetry.Proofs.Gate.Announcement
/-!
# Aggregate — why a source shows something

A source that has not failed shows the last tree its gate has announced, and
nothing before that (`Source.Follows`). A gate announces a tree when a batch
has changed it, but also whenever it is opened out of a pause. So a source of
which nothing has been heard, neither a batch nor a failure, shows something
all the same once it has been paused and resumed, namely that it has no rows;
and it counts as reported from then on (`Accountable`).
-/

namespace Telemetry

/-- The rows of the last of some trees, if there is one. -/
def Slot.ofLast {τ ρ : Type} (rows : τ → List ρ) (trees : List τ) : Slot ρ :=
  match trees.getLast? with
  | none => .pending
  | some tree => .rows (rows tree)

namespace Aggregate

variable {ι τ ρ ω : Type} {m : Merge ι τ ω} {rows : τ → List ρ}

/-! ## What was done to one source -/

/-- The action of an event on the gate of the source at an index. -/
def Event.action? (i : Nat) : Event ι → Option (Gate.Action ι)
  | .gate j action => if j = i then some action else none
  | _ => none

/-- The actions on the gate of a source among some events. -/
def actions (i : Nat) (es : List (Event ι)) : List (Gate.Action ι) :=
  es.filterMap (Event.action? i)

theorem actions_snoc (i : Nat) (es : List (Event ι)) (e : Event ι) :
    actions i (es ++ [e]) = actions i es ++ (e.action? i).toList := by
  cases h : e.action? i <;> simp [actions, h]

/-- **Something has been heard of a source** if a batch has come to it, or a
failure of it was reported. -/
def Heard (i : Nat) (es : List (Event ι)) : Prop :=
  Gate.arrivals (actions i es) ≠ [] ∨ failures i es ≠ []

/-! ## What it shows -/

namespace Source

variable {s : Source ι τ ρ} {reasons : List String} {as : List (Gate.Action ι)}

/-- **A source follows its gate** through some actions: as long as it has not
failed, it shows the last tree announced, if there is one. -/
structure Follows (m : Merge ι τ ω) (rows : τ → List ρ) (reasons : List String)
    (as : List (Gate.Action ι)) (s : Source ι τ ρ) : Prop where
  gate : s.gate = Gate.run m false as
  givenUp : s.givenUp = true → reasons ≠ []
  slot : reasons = [] → s.slot = Slot.ofLast rows (Gate.announced m false as)

/-- A source follows its gate through one more action. -/
theorem Follows.act (h : Follows m rows reasons as s) (a : Gate.Action ι) :
    Follows m rows reasons (as ++ [a]) (act m rows s a).1 := by
  have hgate : (s.gate.act m a).1 = Gate.run m false (as ++ [a]) := by
    rw [h.gate, Gate.run_snoc]
  rw [act_eq]
  by_cases hshown : (s.gate.announces m a && !s.givenUp) = true
  · -- the tree announced is the one that is shown
    obtain ⟨hannounces, -⟩ := Bool.and_eq_true_iff.1 hshown
    simp only [hshown, if_true]
    refine ⟨hgate, h.givenUp, fun _ => ?_⟩
    rw [Gate.announced_snoc, ← h.gate, hannounces, hgate]
    simp [Slot.ofLast]
  · simp only [hshown, Bool.false_eq_true, if_false]
    refine ⟨hgate, h.givenUp, fun hnone => ?_⟩
    -- without a failure the source has not given up, so it is the gate that is silent
    have hsilent : s.gate.announces m a = false := by
      cases hgivenUp : s.givenUp with
      | true => exact absurd hnone (h.givenUp hgivenUp)
      | false => simpa [hgivenUp] using hshown
    rw [Gate.announced_snoc, ← h.gate, hsilent]
    simpa using h.slot hnone

/-- **A source follows its gate through any event.** -/
theorem Follows.after {i : Nat} (h : Follows m rows reasons as s) (e : Event ι) :
    Follows m rows (reasons ++ (e.failure? i).toList) (as ++ (e.action? i).toList)
      (after m rows i s e) := by
  cases e with
  | gate j a =>
    by_cases hj : j = i
    · simpa [Source.after, Event.failure?, Event.action?, hj] using h.act a
    · simpa [Source.after, Event.failure?, Event.action?, hj] using h
  | failed j reason =>
    by_cases hj : j = i
    · simp only [Source.after, Event.failure?, Event.action?, hj, if_true, Option.toList_some,
        Option.toList_none, List.append_nil]
      exact ⟨h.gate, by simp, by simp⟩
    · simpa [Source.after, Event.failure?, Event.action?, hj] using h
  | renew =>
    simp only [Source.after, Event.failure?, Event.action?, Option.toList_none, List.append_nil]
    exact ⟨h.gate, by simp, h.slot⟩

end Source

/-- **Every source follows its gate through any events.** -/
theorem follows_steps (locations : List Location) (es : List (Event ι)) (i : Nat)
    (s : Source ι τ ρ) (hs : ((fresh m locations).steps m rows es).1.sources[i]? = some s) :
    Source.Follows m rows (failures i es) (actions i es) s := by
  induction es using List.reverseRecOn generalizing s with
  | nil =>
    simp only [steps, fresh, List.getElem?_map, Option.map_eq_some_iff] at hs
    obtain ⟨l, -, rfl⟩ := hs
    exact ⟨rfl, by simp, fun _ => rfl⟩
  | append_singleton es e ih =>
    rw [steps_snoc, getElem?_step, Option.map_eq_some_iff] at hs
    obtain ⟨s, hs, rfl⟩ := hs
    rw [failures_snoc, actions_snoc]
    exact (ih s hs).after e

/-- So do connected sources, at every moment of every run. -/
theorem follows_chronicle (s : Setting ι τ ρ ω) (locations : List Location)
    (es : List (Nat × Live.Event ι)) (i : Nat) (x : Source ι τ ρ)
    (hx : (Chronicle.of s locations es).live.board.sources[i]? = some x) :
    Source.Follows s.merge s.rows (failures i (Chronicle.of s locations es).heard)
      (actions i (Chronicle.of s locations es).heard) x := by
  obtain ⟨hboard, -⟩ := Prod.mk.inj (Chronicle.board_of s locations es)
  rw [hboard] at hx
  exact follows_steps locations _ i x hx

/-! ## Why it is shown -/

/-- **What sources can be held to** after some events. -/
structure Accountable (m : Merge ι τ ω) (rows : τ → List ρ) (es : List (Event ι))
    (a : Aggregate ι τ ρ) : Prop where
  /-- As long as a source has not failed, it shows the last tree its gate has
  announced, if there is one. -/
  shown : ∀ i s, a.sources[i]? = some s → failures i es = [] →
    s.slot = Slot.ofLast rows (Gate.announced m false (actions i es))
  /-- A source that shows something has been heard of, or reopened. -/
  reported : ∀ i s, a.sources[i]? = some s → s.slot.isReported = true →
    Heard i es ∨ Gate.Reopened m false (actions i es)
  /-- A source that has been reopened, and of which nothing has been heard,
  shows the rows of the tree it began with. -/
  unheard : ∀ i s, a.sources[i]? = some s → ¬ Heard i es →
    Gate.Reopened m false (actions i es) → s.slot = .rows (rows m.initial)
  /-- So what is reported has been heard of, exactly if no source was reopened
  of which nothing has been heard. -/
  exact : (∀ i s, a.sources[i]? = some s → s.slot.isReported = true → Heard i es) ↔
    ∀ i < a.sources.length, Gate.Reopened m false (actions i es) → Heard i es
  /-- And when all sources are reported, each has been heard of, or reopened. -/
  complete : a.view.readiness = .complete → ∀ i < a.sources.length,
    Heard i es ∨ Gate.Reopened m false (actions i es)

namespace Source.Follows

variable {i : Nat} {es : List (Event ι)} {s : Source ι τ ρ}

/-- A source that shows something without a failure has announced a tree. -/
theorem heard_or_reopened (h : Follows m rows (failures i es) (actions i es) s)
    (hslot : s.slot.isReported = true) : Heard i es ∨ Gate.Reopened m false (actions i es) := by
  by_cases hfailed : failures i es = []
  · have hannounced : Gate.announced m false (actions i es) ≠ [] := by
      intro hnone
      rw [h.slot hfailed, hnone] at hslot
      cases hslot
    exact (Gate.arrivals_or_reopened hannounced).imp_left .inl
  · exact .inl (.inr hfailed)

/-- All that an unheard source can have announced is the tree it began with. -/
theorem slot_of_unheard (h : Follows m rows (failures i es) (actions i es) s)
    (hunheard : ¬ Heard i es) (hreopened : Gate.Reopened m false (actions i es)) :
    s.slot = .rows (rows m.initial) := by
  obtain ⟨hsilent, hfailed⟩ := not_or.1 hunheard
  obtain ⟨tree, htree⟩ := Option.isSome_iff_exists.1
    (List.getLast?_isSome.2 hreopened.announced_ne_nil)
  have hinitial : tree = m.initial :=
    Gate.eq_initial_of_mem_announced (not_not.1 hsilent) tree (List.mem_of_getLast? htree)
  rw [h.slot (not_not.1 hfailed)]
  simp only [Slot.ofLast, htree, hinitial]

/-- A source that has never failed has not given up, and is not shown as failed. -/
theorem unfailed (h : Follows m rows [] (actions i es) s) :
    s.givenUp = false ∧ ∀ reason, s.slot ≠ .noData reason := by
  constructor
  · cases hgivenUp : s.givenUp with
    | false => rfl
    | true => exact absurd rfl (h.givenUp hgivenUp)
  · intro reason hslot
    rw [h.slot rfl, Slot.ofLast] at hslot
    split at hslot <;> cases hslot

end Source.Follows

/-- It is enough that the sources follow their gates. -/
theorem Accountable.of_follows {es : List (Event ι)} {a : Aggregate ι τ ρ}
    (h : ∀ i s, a.sources[i]? = some s →
      Source.Follows m rows (failures i es) (actions i es) s) : Accountable m rows es a where
  shown i s hs := (h i s hs).slot
  reported i s hs := (h i s hs).heard_or_reopened
  unheard i s hs := (h i s hs).slot_of_unheard
  exact := by
    constructor
    · -- an unheard source that was reopened shows something
      intro hreported i hi hreopened
      by_contra hunheard
      have hs : a.sources[i]? = some a.sources[i] := List.getElem?_eq_getElem hi
      have hslot := (h i _ hs).slot_of_unheard hunheard hreopened
      exact hunheard (hreported i _ hs (by rw [hslot]; rfl))
    · intro hreopened i s hs hslot
      have hi : i < a.sources.length := (List.getElem?_eq_some_iff.1 hs).1
      exact ((h i s hs).heard_or_reopened hslot).elim id (hreopened i hi)
  complete hcomplete i hi := by
    have hs : a.sources[i]? = some a.sources[i] := List.getElem?_eq_getElem hi
    have hmem : (a.sources[i].location, a.sources[i].slot) ∈ a.view.sources :=
      List.mem_map_of_mem (List.getElem_mem hi)
    have hslot := (Overview.readiness_eq_complete.1 hcomplete).2 _ hmem
    exact (h i _ hs).heard_or_reopened hslot

/-- **Connected sources are accountable** at every moment of every run. -/
theorem accountable_chronicle (s : Setting ι τ ρ ω) (locations : List Location)
    (es : List (Nat × Live.Event ι)) :
    Accountable s.merge s.rows (Chronicle.of s locations es).heard
      (Chronicle.of s locations es).live.board :=
  .of_follows (follows_chronicle s locations es)

end Aggregate

end Telemetry
