import Telemetry.Node.Census
import Telemetry.Node.Roster
import Telemetry.Proofs.Aggregate.Reported
/-!
# Node — the census counts what is shown

A source that shows anything is counted, under one condition, and a source that
shows nothing is not (`Census.total_ofOverview`). So a source that counts has
been heard of, or reopened; and if it was reopened without having been heard
of, it counts as offline (`Census.Accountable`).
-/

namespace Telemetry

namespace Node

/-- A source counts once it shows something. -/
theorem isSome_ownCondition (l : Location) (slot : Slot Status) :
    (ownCondition l slot).isSome = slot.isReported := by
  cases slot with
  | pending => rfl
  | noData reason => rfl
  | rows rows =>
    unfold ownCondition
    dsimp only
    split <;> rfl

/-- Conditions are counted each under its own name. -/
theorem sum_count_eq_length (conditions : List Condition) :
    conditions.count .online + conditions.count .offline + conditions.count .disabled =
      conditions.length := by
  induction conditions with
  | nil => rfl
  | cons c rest ih =>
    rw [List.count_cons, List.count_cons, List.count_cons, List.length_cons, ← ih]
    cases c <;> simp <;> omega

/-- **The census counts the sources that show something**, each once. -/
theorem Census.total_ofOverview (o : Overview Status) :
    (Census.ofOverview o).total = o.reported := by
  unfold Census.total Census.ofOverview Overview.reported
  dsimp only
  rw [sum_count_eq_length, List.length_filterMap_eq_countP]
  exact List.countP_congr fun s _ => by rw [isSome_ownCondition]

/-- **What the census can be held to** after some events. -/
structure Census.Accountable (es : List (Aggregate.Event Status))
    (a : Aggregate Status Roster Status) : Prop where
  /-- It counts the sources that are reported, each once. -/
  total : (ofOverview a.view).total = a.view.reported
  /-- A source that counts has been heard of, or reopened. -/
  counted : ∀ i s, a.sources[i]? = some s → (ownCondition s.location s.slot).isSome = true →
    Aggregate.Heard i es ∨ Gate.Reopened merge false (Aggregate.actions i es)
  /-- If it was reopened, and nothing has been heard of it, it counts as
  offline. -/
  unheard : ∀ i s, a.sources[i]? = some s → ¬ Aggregate.Heard i es →
    Gate.Reopened merge false (Aggregate.actions i es) →
    ownCondition s.location s.slot = some .offline
  /-- So it counts none of which nothing has been heard, exactly if no such
  source was reopened. -/
  exact : (∀ i s, a.sources[i]? = some s → (ownCondition s.location s.slot).isSome = true →
    Aggregate.Heard i es) ↔ ∀ i < a.sources.length,
      Gate.Reopened merge false (Aggregate.actions i es) → Aggregate.Heard i es

/-- It is enough that the sources are accountable themselves. -/
theorem Census.Accountable.of {es : List (Aggregate.Event Status)}
    {a : Aggregate Status Roster Status} (h : Aggregate.Accountable merge Roster.rows es a) :
    Census.Accountable es a where
  total := total_ofOverview a.view
  counted i s hs hcounts := by
    rw [isSome_ownCondition] at hcounts
    exact h.reported i s hs hcounts
  unheard i s hs hunheard hreopened := by
    rw [h.unheard i s hs hunheard hreopened]
    rfl
  exact := by
    simp only [isSome_ownCondition]
    exact h.exact

end Node

end Telemetry
