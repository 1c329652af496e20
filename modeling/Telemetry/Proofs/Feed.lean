import Telemetry.Feed.Basic
import Telemetry.Proofs.Aggregate.Recovery
import Telemetry.Proofs.Etl.News
import Telemetry.Proofs.Etl.Replay
import Telemetry.Proofs.Log.News
import Telemetry.Proofs.Node.Census
import Telemetry.Proofs.Node.Roster
/-!
# Feed — what holds of all three feeds

The merges of the three feeds are candid, so that nothing changes in silence:
what the sources of a feed show is what they have (`Coherent`), and whoever
looks at a tree when it is announced is never left with an old one
(`NeverStale`). That a merge says of a batch that it changes the tree means no
more than that some item in it was news; the tree may have changed and changed
back, but only if the batch contradicts itself (`Tells`).

A source is not asked whether it has reported, it counts as reported once it
shows something. In most runs this is the same (`accountable_sources`). Nor is it
asked whether it is there again after a failure: it shows rows again when there
is something new in them (`recovers_feeds`).
-/

namespace Telemetry

namespace Feed

variable {ι τ ρ ω σ : Type}

/-! ## What the merges tell -/

/-- **A feed tells of its trees** whatever has been merged into them, and
whatever comes next. -/
def Tells (f : Feed ι τ ρ ω) (cutoff : Option Time.Instant) (read : τ → σ)
    (Consistent : List ι → Prop) : Prop :=
  ∀ batches : List (List ι),
    (f.merge cutoff).Tells read Consistent ((f.merge cutoff).replay (f.merge cutoff).initial batches)

/-- **A batch is said to change the tree exactly if it does**, unless it
contradicts itself: two of its runs of one number are not equal, or two of its
reports on one node differ. Then it is said to change the tree in any case. -/
theorem tells_feeds (cutoff : Option Time.Instant) :
    etl.Tells cutoff Etl.Tree.listing (Etl.Consistent cutoff) ∧
      logs.Tells cutoff id (fun _ => True) ∧
      nodes.Tells cutoff Node.Roster.rows Node.Consistent := by
  refine ⟨fun batches => ?_, fun batches => ?_, fun batches => ?_⟩
  · exact (Etl.Tree.sound_empty.replay cutoff batches).tells_merge
  · exact (Log.Tail.dated_empty.replay batches).tells_merge
  · exact (Node.Roster.sound_empty.replay batches).tells_merge

/-- A node that is told to be offline and then online, twice over: the second
time it goes offline and online again, and the roster is the same. So it is
with a run of which two versions come twice. -/
theorem changed_and_same :
    (let report := fun condition => Node.Status.mk "A" "" condition none none none
      let batch := [report .offline, report .online]
      let roster := Node.merge.replay Node.merge.initial [batch]
      (Node.merge.ingest roster batch).changed = true ∧ Node.merge.next roster batch = roster) ∧
    (let run := fun loaded => Etl.Stats.mk 1 "2024-05-01T10:00:00Z" none .zero [] [] loaded 0 none
        none none none
      let task : Etl.Task := ⟨7, "Orders", "Raven", none, [⟨"Script", [run 1, run 0]⟩]⟩
      let batch := [task]
      let tree := (Etl.merge none).replay (Etl.merge none).initial [batch]
      ((Etl.merge none).ingest tree batch).changed = true ∧
        (Etl.merge none).next tree batch = tree) := by
  constructor
  · intro report batch roster
    have hsound : roster.Sound := Node.Roster.sound_empty.replay [batch]
    refine ⟨(hsound.tells_merge.exact batch).2 (.inr fun hbatch => ?_),
      Node.Roster.replay_replay Node.Roster.sound_empty [batch]⟩
    have hsame : report .offline = report .online :=
      hbatch _ (by simp [batch]) _ (by simp [batch]) rfl
    cases hsame
  · intro run task batch tree
    have hsound : tree.Sound := Etl.Tree.sound_empty.replay none [batch]
    have hsurvives : ∀ loaded ∈ [1, 0],
        (task, run loaded) ∈ Etl.survivors none batch task.key "Script" := by
      intro loaded hloaded
      have hrun : run loaded ∈ [run 1, run 0] := List.mem_map_of_mem hloaded
      refine Etl.mem_survivors.2 ⟨⟨List.mem_singleton_self task, rfl⟩, ?_, ?_⟩
      · exact ⟨⟨"Script", [run 1, run 0]⟩, List.mem_singleton_self _, rfl, hrun⟩
      · change (Time.Instant.ofStamp? "2024-05-01T10:00:00Z").any (fun _ => true) = true
        decide +kernel
    refine ⟨(hsound.tells_merge.exact batch).2 (.inr fun hbatch => ?_),
      Etl.Tree.sound_empty.replay_replay none [batch]⟩
    have hsame := hbatch _ _ _ (hsurvives 1 (by simp)) _ (hsurvives 0 (by simp)) rfl
    cases hsame

/-! ## Coherence -/

/-- **A feed is coherent** if at every moment, whatever has been done to its
sources and their connections, they show what they have. -/
def Coherent (f : Feed ι τ ρ ω) : Prop :=
  ∀ (cutoff : Option Time.Instant) (plan : Location → Connection.Plan ι)
    (locations : List Location) (es : List (Nat × Aggregate.Live.Event ι)),
    let c := Aggregate.Chronicle.of ⟨f.merge cutoff, f.rows, plan⟩ locations es
    Aggregate.Coherent (f.merge cutoff) f.rows locations c.heard c.live.board c.shown

theorem coherent_of_candid {f : Feed ι τ ρ ω} (hm : ∀ cutoff, (f.merge cutoff).Candid) :
    f.Coherent := by
  intro cutoff plan locations es
  let s : Aggregate.Setting ι τ ρ ω := ⟨f.merge cutoff, f.rows, plan⟩
  have hs : s.merge.Candid := hm cutoff
  exact Aggregate.coherent_chronicle hs locations es

/-- **All three feeds are coherent.** -/
theorem coherent_feeds : etl.Coherent ∧ logs.Coherent ∧ nodes.Coherent :=
  ⟨coherent_of_candid Etl.merge_candid, coherent_of_candid Log.merge_candid,
    coherent_of_candid fun _ => Node.merge_candid⟩

/-! ## Announcements -/

/-- **A feed never leaves anybody with an old tree** if the last one announced
is always the one there is, whatever has been done to the gate before it. -/
def NeverStale (f : Feed ι τ ρ ω) : Prop :=
  ∀ (cutoff : Option Time.Instant) (hears : Bool) (as : List (Gate.Action ι)),
    (Gate.run (f.merge cutoff) hears as).tree =
      (Gate.announced (f.merge cutoff) hears as).getLast?.getD (f.merge cutoff).initial

/-- **No feed leaves anybody with an old tree.** -/
theorem neverStale_feeds : etl.NeverStale ∧ logs.NeverStale ∧ nodes.NeverStale := by
  refine ⟨fun cutoff hears as => ?_, fun cutoff hears as => ?_, fun cutoff hears as => ?_⟩
  · exact Gate.tree_eq_of_candid (Etl.merge_candid cutoff) hears as
  · exact Gate.tree_eq_of_candid (Log.merge_candid cutoff) hears as
  · exact Gate.tree_eq_of_candid Node.merge_candid hears as

/-! ## Reports -/

/-- **What is reported has been heard of, unless a source was reopened of which
nothing has been heard.** Sources can be held to this whatever is merged, and so
can the census of a cluster. -/
theorem accountable_sources (s : Aggregate.Setting ι τ ρ ω) (locations : List Location)
    (es : List (Nat × Aggregate.Live.Event ι)) (plan : Location → Connection.Plan Node.Status)
    (reports : List (Nat × Aggregate.Live.Event Node.Status)) :
    let c := Aggregate.Chronicle.of s locations es
    let cluster := Aggregate.Chronicle.of ⟨Node.merge, Node.Roster.rows, plan⟩ locations reports
    Aggregate.Accountable s.merge s.rows c.heard c.live.board ∧
      Node.Census.Accountable cluster.heard cluster.live.board := by
  intro c cluster
  let setting : Aggregate.Setting Node.Status Node.Roster Node.Status Empty :=
    ⟨Node.merge, Node.Roster.rows, plan⟩
  have hcluster : Aggregate.Accountable setting.merge setting.rows cluster.heard
      cluster.live.board := Aggregate.accountable_chronicle setting locations reports
  exact ⟨Aggregate.accountable_chronicle s locations es, .of hcluster⟩

/-- Nothing has been heard of a node whose source is paused and resumed, and
still the overview is complete, and the node counts as offline. -/
theorem complete_and_unheard :
    let a : Aggregate Node.Status Node.Roster Node.Status := .fresh Node.merge [⟨"A", none⟩]
    let es : List (Aggregate.Event Node.Status) := a.pauseAll ++ a.resumeAll
    let overview := (a.steps Node.merge Node.Roster.rows es).1.view
    ¬ Aggregate.Heard 0 es ∧ overview.readiness = .complete ∧
      Node.Census.ofOverview overview = ⟨0, 1, 0⟩ := by
  intro a es overview
  refine ⟨?_, rfl, rfl⟩
  rintro (harrived | hfailed)
  · exact harrived rfl
  · exact hfailed rfl

/-! ## Recovery -/

/-- **A feed recovers** by what changes its trees, from any moment at which its
sources have just been connected to any later one, as long as the source in
question has not failed in between. -/
def Recovers (f : Feed ι τ ρ ω) (cutoff : Option Time.Instant) (locations : List Location) : Prop :=
  ∀ (plan : Location → Connection.Plan ι) (es : List (Nat × Aggregate.Live.Event ι)) (n i : Nat)
    (old new : Source ι τ ρ),
    let m := f.merge cutoff
    let c := Aggregate.Chronicle.of ⟨m, f.rows, plan⟩ locations es
    let before := c.heard.take n
    let since := c.heard.drop n
    Aggregate.Renewed before → Aggregate.failures i since = [] →
      ((Aggregate.fresh m locations).steps m f.rows before).1.sources[i]? = some old →
      c.live.board.sources[i]? = some new →
      Aggregate.Recovers m f.rows (Aggregate.actions i since) old new

theorem recovers_of_candid {f : Feed ι τ ρ ω} {cutoff : Option Time.Instant}
    (hm : (f.merge cutoff).Candid) (locations : List Location) : f.Recovers cutoff locations := by
  intro plan es n i old new
  let s : Aggregate.Setting ι τ ρ ω := ⟨f.merge cutoff, f.rows, plan⟩
  have hs : s.merge.Candid := hm
  exact Aggregate.recovers_chronicle hs locations es n

/-- **All three feeds recover by what changes their trees**, and by nothing
else, whatever the cutoff and wherever they come from. -/
theorem recovers_feeds (cutoff : Option Time.Instant) (locations : List Location) :
    etl.Recovers cutoff locations ∧ logs.Recovers cutoff locations ∧
      nodes.Recovers cutoff locations :=
  ⟨recovers_of_candid (Etl.merge_candid cutoff) locations,
    recovers_of_candid (Log.merge_candid cutoff) locations,
    recovers_of_candid Node.merge_candid locations⟩

/-- A node that reports after a failure what it reported before stays shown as
failed. One that begins with an empty batch is shown as if it had not reported. -/
theorem delivered_and_unshown :
    (let report := Node.Status.mk "A" "" .online none none none
      let a : Aggregate Node.Status Node.Roster Node.Status := .fresh Node.merge [⟨"A", none⟩]
      let before : List (Aggregate.Event Node.Status) :=
        [.gate 0 (.push [report]), .failed 0 "transport error: reset", .renew]
      let since : List (Aggregate.Event Node.Status) := [.gate 0 (.push [report])]
      let after := (a.steps Node.merge Node.Roster.rows (before ++ since)).1
      Aggregate.Renewed before ∧ Aggregate.failures 0 since = [] ∧
        Gate.pushed (Aggregate.actions 0 since) = [[report]] ∧
        after.isPaused = false ∧
        after.view.sources = [(⟨"A", none⟩, .noData "transport error: reset")]) ∧
    (let a : Aggregate Node.Status Node.Roster Node.Status := .fresh Node.merge [⟨"A", none⟩]
      let since : List (Aggregate.Event Node.Status) := [.gate 0 (.push [])]
      let after := (a.steps Node.merge Node.Roster.rows ([.renew] ++ since)).1
      Aggregate.Renewed [(.renew : Aggregate.Event Node.Status)] ∧
        Aggregate.failures 0 since = [] ∧
        Gate.pushed (Aggregate.actions 0 since) = [[]] ∧
        after.isPaused = false ∧ after.view.sources = [(⟨"A", none⟩, .pending)]) := by
  constructor
  · intro report a before since after
    let roster := Node.merge.next .empty [report]
    have hsound : Node.Roster.empty.Sound := Node.Roster.sound_empty
    have hroster : roster.Sound := hsound.replay [[report]]
    -- the report is no news to the roster that has it
    have hsilent : (Node.merge.ingest roster [report]).changed = false := by
      have hconsistent : Node.Consistent [report] := by simp [Node.Consistent]
      have hheld : roster.isNews report = false :=
        hsound.isNews_next hconsistent (List.mem_singleton_self report)
      rw [hroster.changed_ingest]
      simpa using hheld
    have hsame : Node.merge.next roster [report] = roster :=
      Node.Roster.replay_replay hsound [[report]]
    let failed : Aggregate Node.Status Node.Roster Node.Status :=
      ⟨[⟨⟨"A", none⟩, ⟨roster, false, [], false⟩, .noData "transport error: reset", false⟩]⟩
    -- whether or not the report is shown when it first comes, the failure is shown after it
    have hbefore : (a.steps Node.merge Node.Roster.rows before).1 = failed := by
      have hfirst : (Node.merge.ingest Node.merge.initial [report]).tree = roster := rfl
      cases hchanged : (Node.merge.ingest Node.merge.initial [report]).changed <;>
        simp [failed, before, a, Aggregate.steps, Aggregate.step, Aggregate.set, Aggregate.fresh,
          Aggregate.Source.act, Aggregate.Source.show, Gate.fresh, Gate.act, Gate.push,
          Gate.mergeNow, hfirst, hchanged]
    have hafter : after = failed := by
      have hsecond : (Node.merge.ingest roster [report]).tree = roster := hsame
      simp only [after]
      rw [Aggregate.steps_append, hbefore]
      simp [failed, since, Aggregate.steps, Aggregate.step, Aggregate.set, Aggregate.Source.act,
        Gate.act, Gate.push, Gate.mergeNow, hsecond, hsilent]
    rw [hafter]
    exact ⟨.inr rfl, rfl, rfl, rfl, rfl⟩
  · exact ⟨.inr rfl, rfl, rfl, rfl, rfl⟩

end Feed

end Telemetry
