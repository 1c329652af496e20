import Telemetry.Proofs.Node.Census
import Telemetry.Proofs.Node.Roster
/-!
# Node — the census speaks of the rosters there are

A census is made from the rows that the sources show, by searching them. Still
each source counts with what its roster says of its own node now, found through
the index: the rows shown are those of the roster the source has
(`ownCondition_eq_standing`). That is the last report on this node that the
source has merged, whatever it was told of other nodes, and whatever others were
told of this one (`Census.Current`).
-/

namespace Telemetry

namespace Node

/-- **The condition a source stands for**: none before it shows anything, and
offline once it has failed; else the one that its roster has for its own node,
or offline if it has none. -/
def standing (s : Source Status Roster Status) : Option Condition :=
  match s.slot with
  | .pending => none
  | .noData _ => some .offline
  | .rows _ => some (((s.gate.tree.node? s.location.nodeTag).map Status.condition).getD .offline)

/-- **A source counts with what it stands for**, if the rows it shows are those of
its roster. -/
theorem ownCondition_eq_standing {s : Source Status Roster Status} (h : s.gate.tree.Sound)
    (hshown : ∀ rows, s.slot = .rows rows → rows = s.gate.tree.rows) :
    ownCondition s.location s.slot = standing s := by
  unfold ownCondition standing
  cases hslot : s.slot with
  | pending => rfl
  | noData reason => rfl
  | rows rows =>
    have hnode : s.gate.tree.node? s.location.nodeTag =
        s.gate.tree.rows.find? fun report => report.nodeTag == s.location.nodeTag :=
      h.get?_eq_find? s.location.nodeTag
    dsimp only
    rw [hshown rows hslot, hnode]
    cases s.gate.tree.rows.find? fun report => report.nodeTag == s.location.nodeTag <;> rfl

/-- **A census is current** after some events if it is what the rosters of the
sources make it now. -/
structure Census.Current (es : List (Aggregate.Event Status))
    (a : Aggregate Status Roster Status) : Prop where
  /-- Each source counts with the condition it stands for, if there is one, and
  with no other. -/
  counts : ofOverview a.view =
    ⟨a.sources.countP fun s => standing s = some .online,
      a.sources.countP fun s => standing s = some .offline,
      a.sources.countP fun s => standing s = some .disabled⟩
  /-- What its roster has for its own node is the last report on it among all
  those that the source has merged. -/
  own : ∀ i s, a.sources[i]? = some s → s.gate.tree.node? s.location.nodeTag =
    ((Gate.merged merge false (Aggregate.actions i es)).flatten.filter
      (·.nodeTag == s.location.nodeTag)).getLast?
  /-- All sources are counted that have reported, -/
  total : (ofOverview a.view).total = a.sources.countP fun s => s.slot.isReported
  /-- and so all there are, exactly if the overview is complete, or there are
  none. -/
  complete : (ofOverview a.view).total = a.sources.length ↔
    a.view.readiness = .complete ∨ a.sources = []

/-- The conditions of an overview, counted source by source. -/
theorem count_conditions {a : Aggregate Status Roster Status}
    (h : ∀ s ∈ a.sources, ownCondition s.location s.slot = standing s) (c : Condition) :
    (a.view.sources.filterMap fun s => ownCondition s.1 s.2).count c =
      a.sources.countP fun s => standing s = some c := by
  rw [Aggregate.view, List.filterMap_map, List.count, List.countP_filterMap]
  refine List.countP_congr fun s hs => ?_
  simp only [Function.comp_apply]
  rw [h s hs]
  cases standing s <;> simp

/-- It is enough that the sources show what they have, and follow their gates. -/
theorem Census.Current.of {es : List (Aggregate.Event Status)}
    {a : Aggregate Status Roster Status}
    (hsettled : ∀ i s, a.sources[i]? = some s →
      Aggregate.Source.Settled merge Roster.rows (Aggregate.failures i es) s)
    (hfollows : ∀ i s, a.sources[i]? = some s →
      Aggregate.Source.Follows merge Roster.rows (Aggregate.failures i es)
        (Aggregate.actions i es) s) : Census.Current es a := by
  have hroster : ∀ i s, a.sources[i]? = some s → s.gate.tree =
      merge.replay merge.initial (Gate.merged merge false (Aggregate.actions i es)) := by
    intro i s hs
    rw [(hfollows i s hs).gate]
    exact Gate.tree_run _
  have hstands : ∀ s ∈ a.sources, ownCondition s.location s.slot = standing s := by
    intro s hs
    obtain ⟨i, hi⟩ := List.getElem?_of_mem hs
    refine ownCondition_eq_standing ?_ fun rows hrows => ((hsettled i s hi).shown rows hrows).1
    rw [hroster i s hi]
    exact Roster.sound_empty.replay _
  have htotal : (ofOverview a.view).total = a.view.reported := total_ofOverview a.view
  exact {
    counts := by
      unfold ofOverview
      simp only [count_conditions hstands]
    own := fun i s hs => by
      rw [hroster i s hs]
      have hlast := Roster.sound_empty.node?_replay
        (Gate.merged merge false (Aggregate.actions i es)) s.location.nodeTag
      have hnone : Roster.empty.node? s.location.nodeTag = none := Catalog.get?_empty _
      rw [hnone, Option.or_none] at hlast
      exact hlast
    total := by
      rw [htotal, Overview.reported, Aggregate.view, List.countP_map]
      rfl
    complete := by
      have hlength : a.sources.length = a.view.sources.length := by simp [Aggregate.view]
      have hnil : a.sources = [] ↔ a.view.sources = [] := by simp [Aggregate.view]
      rw [htotal, hlength, Overview.reported_eq_length, Overview.readiness_eq_complete, hnil]
      by_cases hsources : a.view.sources = []
      · simp [hsources]
      · simp [hsources] }

/-- **The census is current at every moment of every run.** -/
theorem Census.current_chronicle (plan : Location → Connection.Plan Status)
    (locations : List Location) (es : List (Nat × Aggregate.Live.Event Status)) :
    let c := Aggregate.Chronicle.of ⟨merge, Roster.rows, plan⟩ locations es
    Census.Current c.heard c.live.board := by
  intro c
  let s : Aggregate.Setting Status Roster Status Empty := ⟨merge, Roster.rows, plan⟩
  have hs : s.merge.Candid := merge_candid
  exact .of (Aggregate.coherent_chronicle hs locations es).settled
    (Aggregate.follows_chronicle s locations es)

end Node

end Telemetry
