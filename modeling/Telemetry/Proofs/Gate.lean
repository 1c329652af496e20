import Mathlib.Data.List.Induction
import Telemetry.Gate
import Telemetry.Proofs.Merge
/-!
# The gate — nothing is lost, doubled or moved

What a gate does to its tree is to merge batches, and `merges` says which:
the batch that comes while the gate is open, or all that is held when it
opens. What has been merged and what is still held are together what has
come (`perm_act`), and a gate tells its tree when `announces` says so.

The order in which a gate merges is seen through a merge that keeps a
record of its batches (`Merge.recorded`): a gate before that one is the
gate before the merge it records (`run_reads`). So `Faithful` can say of
every merge what becomes of the batches of every run, and `faithful_run`
that it is so. A payload comes to a gate as a batch or a heartbeat
(`Action.ofPayload`), so the runs of actions are all the runs there are.
-/

namespace Telemetry

namespace Merge

variable {ι τ σ ω : Type}

/-- **One merge seen through another**: what is read off the trees of the
first are trees of the second, and both take in batches alike. -/
structure Reads (m : Merge ι τ ω) (m' : Merge ι σ ω) (read : τ → σ) : Prop where
  initial : read m.initial = m'.initial
  ingest : ∀ t batch, m'.ingest (read t) batch = (m.ingest t batch).map read

/-- A merge that keeps the batches it took in, in their order. -/
def recorded (m : Merge ι τ ω) : Merge ι (τ × List (List ι)) ω where
  initial := (m.initial, [])
  ingest := fun t batch => (m.ingest t.1 batch).map (·, t.2 ++ [batch])

/-- Without its record it is the merge it records. -/
theorem recorded_reads (m : Merge ι τ ω) : m.recorded.Reads m Prod.fst :=
  ⟨rfl, fun _ _ => rfl⟩

theorem Reads.replay {m : Merge ι τ ω} {m' : Merge ι σ ω} {read : τ → σ} (h : m.Reads m' read)
    (t : τ) (batches : List (List ι)) :
    m'.replay (read t) batches = read (m.replay t batches) := by
  induction batches generalizing t with
  | nil => rfl
  | cons batch rest ih =>
    have hnext : m'.next (read t) batch = read (m.next t batch) := by
      rw [next, h.ingest]
      rfl
    simp only [Merge.replay, List.foldl_cons] at ih ⊢
    rw [hnext, ih]

/-- The record grows by the batches taken in. -/
theorem recorded_replay (m : Merge ι τ ω) (t : τ × List (List ι)) (batches : List (List ι)) :
    (m.recorded.replay t batches).2 = t.2 ++ batches := by
  induction batches generalizing t with
  | nil => simp [Merge.replay]
  | cons batch rest ih =>
    have hrest := ih (m.recorded.next t batch)
    simp only [Merge.replay, List.foldl_cons] at hrest ⊢
    rw [hrest]
    simp [next, recorded, Ingestion.map]

end Merge

namespace Gate

variable {ι τ σ ω : Type} {m : Merge ι τ ω} {m' : Merge ι σ ω} {read : τ → σ} {hears : Bool}

/-! ## What an action brings -/

/-- The batch an action brings. -/
def Action.batch? : Action ι → Option (List ι)
  | .push batch => some batch
  | .seed snapshot => some snapshot
  | _ => none

/-- Whether an action has nothing to do with pausing. -/
def Action.flows : Action ι → Bool
  | .pause | .resume => false
  | _ => true

/-- All batches that come with some actions, in order of arrival. -/
def arrivals (as : List (Action ι)) : List (List ι) := as.filterMap Action.batch?

theorem arrivals_snoc (as : List (Action ι)) (a : Action ι) :
    arrivals (as ++ [a]) = arrivals as ++ a.batch?.toList := by
  cases h : a.batch? <;> simp [arrivals, h]

/-- The batches pushed among them. -/
def pushed (as : List (Action ι)) : List (List ι) :=
  as.filterMap fun a => match a with
    | .push batch => some batch
    | _ => none

/-- The snapshots among them. -/
def seeded (as : List (Action ι)) : List (List ι) :=
  as.filterMap fun a => match a with
    | .seed snapshot => some snapshot
    | _ => none

/-! ## One action -/

/-- The batches an action merges into the tree. -/
def merges (g : Gate ι τ) : Action ι → List (List ι)
  | .push batch | .seed batch => if g.shut then [] else [batch]
  | .resume => if g.shut then g.held else []
  | _ => []

/-- Whether an action makes the gate announce its tree. -/
def announces (m : Merge ι τ ω) (g : Gate ι τ) : Action ι → Bool
  | .push batch | .seed batch => !g.shut && (m.ingest g.tree batch).changed
  | .resume => g.shut
  | _ => false

variable (m) (g : Gate ι τ) (a : Action ι)

/-- **An action does nothing to the tree but merge batches.** -/
theorem tree_act : (g.act m a).1.tree = m.replay g.tree (g.merges a) := by
  cases a with
  | push batch =>
    by_cases hs : g.shut <;> simp [act, push, mergeNow, merges, Merge.replay, Merge.next, hs]
  | seed batch =>
    by_cases hs : g.shut <;> simp [act, seed, mergeNow, merges, Merge.replay, Merge.next, hs]
  | heartbeat => rfl
  | pause => rfl
  | resume => by_cases hs : g.shut <;> simp [act, resume, merges, Merge.replay, hs]

/-- What an action brings is merged or held, and so is what was held
before. -/
theorem perm_act : (g.merges a ++ (g.act m a).1.held).Perm (g.held ++ a.batch?.toList) := by
  cases a with
  | push batch =>
    by_cases hs : g.shut
    · simp [act, push, merges, Action.batch?, hs]
    · simpa [act, push, mergeNow, merges, Action.batch?, hs] using
        (List.perm_append_singleton batch g.held).symm
  | seed batch =>
    by_cases hs : g.shut
    · simpa [act, seed, merges, Action.batch?, hs] using
        (List.perm_append_singleton batch g.held).symm
    · simpa [act, seed, mergeNow, merges, Action.batch?, hs] using
        (List.perm_append_singleton batch g.held).symm
  | heartbeat => simp [act, merges, Action.batch?]
  | pause => simp [act, pause, merges, Action.batch?]
  | resume => by_cases hs : g.shut <;> simp [act, resume, merges, Action.batch?, hs]

/-- **What an action makes a gate say**: its tree, or that there was a
heartbeat. -/
theorem notice_act : (g.act m a).2 =
    if g.announces m a then some (.merged (g.act m a).1.tree)
    else if g.hearsHeartbeats && a matches .heartbeat then some .heartbeat else none := by
  cases a with
  | push batch =>
    by_cases hs : g.shut <;> by_cases hc : (m.ingest g.tree batch).changed <;>
      simp [act, push, mergeNow, announces, hs, hc]
  | seed batch =>
    by_cases hs : g.shut <;> by_cases hc : (m.ingest g.tree batch).changed <;>
      simp [act, seed, mergeNow, announces, hs, hc]
  | heartbeat => by_cases hh : g.hearsHeartbeats <;> simp [act, announces, hh]
  | pause => simp [act, announces]
  | resume => by_cases hs : g.shut <;> simp [act, resume, announces, hs]

/-- The tree is announced when a batch that finds the gate open changes it,
and when the gate opens. -/
theorem announces_iff : g.announces m a = true ↔
    (∃ batch, a.batch? = some batch ∧ g.shut = false ∧ (m.ingest g.tree batch).changed = true) ∨
      a = .resume ∧ g.shut = true := by
  cases a <;> simp [announces, Action.batch?]

theorem notice_act_eq_merged {tree : τ} : (g.act m a).2 = some (.merged tree) ↔
    tree = (g.act m a).1.tree ∧ g.announces m a = true := by
  rw [notice_act]
  by_cases h : g.announces m a
  · simp [h, eq_comm]
  · simp only [h, Bool.false_eq_true, if_false, and_false, iff_false]
    split <;> simp

theorem notice_act_eq_heartbeat : (g.act m a).2 = some .heartbeat ↔
    a = .heartbeat ∧ g.hearsHeartbeats = true := by
  rw [notice_act]
  cases a with
  | heartbeat => simp [announces]
  | _ => split <;> simp

/-- **A gate before a candid merge does nothing in silence**: a tree it does
not announce is the tree it had. -/
theorem tree_act_of_silent (hm : m.Candid) (h : g.announces m a = false) :
    (g.act m a).1.tree = g.tree := by
  have hmerged : ∀ batch, (!g.shut && (m.ingest g.tree batch).changed) = false →
      m.replay g.tree (if g.shut then [] else [batch]) = g.tree := by
    intro batch hsilent
    by_cases hs : g.shut
    · simp [hs, Merge.replay]
    · have hunchanged : (m.ingest g.tree batch).changed = false := by simpa [hs] using hsilent
      simpa [hs, Merge.replay] using hm g.tree batch hunchanged
  rw [tree_act]
  cases a with
  | push batch => exact hmerged batch h
  | seed batch => exact hmerged batch h
  | heartbeat => rfl
  | pause => rfl
  | resume =>
    have hs : g.shut = false := h
    simp [merges, hs, Merge.replay]

@[simp] theorem hears_act : (g.act m a).1.hearsHeartbeats = g.hearsHeartbeats := by
  cases a with
  | push batch => by_cases hs : g.shut <;> simp [act, push, mergeNow, hs]
  | seed batch => by_cases hs : g.shut <;> simp [act, seed, mergeNow, hs]
  | heartbeat => rfl
  | pause => rfl
  | resume => by_cases hs : g.shut <;> simp [act, resume, hs]

/-- Only pausing shuts a gate, and only resuming opens it. -/
theorem shut_act : (g.act m a).1.shut = (a matches .pause || g.shut && !a matches .resume) := by
  cases a with
  | push batch => by_cases hs : g.shut <;> simp [act, push, mergeNow, hs]
  | seed batch => by_cases hs : g.shut <;> simp [act, seed, mergeNow, hs]
  | heartbeat => simp [act]
  | pause => simp [act, pause]
  | resume => by_cases hs : g.shut <;> simp [act, resume, hs]

/-! ## Gates before merges of which one reads the other -/

/-- What is announced, as far as it is read. -/
def Notice.map (read : τ → σ) : Notice τ → Notice σ
  | .merged tree => .merged (read tree)
  | .heartbeat => .heartbeat

/-- A gate before what is read off its tree. -/
def map (read : τ → σ) (g : Gate ι τ) : Gate ι σ :=
  ⟨read g.tree, g.shut, g.held, g.hearsHeartbeats⟩

variable {m g a}

/-- **Gates act alike** before merges of which one reads the other. -/
theorem act_map (h : m.Reads m' read) :
    (g.map read).act m' a = ((g.act m a).1.map read, (g.act m a).2.map (Notice.map read)) := by
  have hnow : ∀ batch, (g.map read).mergeNow m' batch =
      ((g.mergeNow m batch).1.map read, (g.mergeNow m batch).2.map (Notice.map read)) := by
    intro batch
    by_cases hc : (m.ingest g.tree batch).changed <;>
      simp [mergeNow, map, Notice.map, Ingestion.map, h.ingest, hc]
  cases a with
  | push batch =>
    by_cases hs : g.shut
    · simp [act, push, map, hs]
    · simpa [act, push, map, hs] using hnow batch
  | seed batch =>
    by_cases hs : g.shut
    · simp [act, seed, map, hs]
    · simpa [act, seed, map, hs] using hnow batch
  | heartbeat => by_cases hh : g.hearsHeartbeats <;> simp [act, map, Notice.map, hh]
  | pause => rfl
  | resume => by_cases hs : g.shut <;> simp [act, resume, map, Notice.map, h.replay, hs]

variable (m hears)

/-! ## Runs -/

/-- The gate after some actions. -/
def run (as : List (Action ι)) : Gate ι τ := as.foldl (fun g a => (g.act m a).1) (fresh m hears)

/-- What an action that comes after some others makes the gate say. -/
def reply (as : List (Action ι)) (a : Action ι) : Option (Notice τ) := ((run m hears as).act m a).2

/-- The batches merged in the course of some actions, in the order in which
they were merged. -/
def merged (as : List (Action ι)) : List (List ι) := (run m.recorded hears as).tree.2

variable {m hears} {as : List (Action ι)}

theorem run_snoc (as : List (Action ι)) (a : Action ι) :
    run m hears (as ++ [a]) = ((run m hears as).act m a).1 := by
  simp [run]

theorem run_reads (h : m.Reads m' read) (as : List (Action ι)) :
    run m' hears as = (run m hears as).map read := by
  induction as using List.reverseRecOn with
  | nil => simp [run, fresh, map, h.initial]
  | append_singleton as a ih => rw [run_snoc, run_snoc, ih, act_map h]

theorem hears_run (as : List (Action ι)) : (run m hears as).hearsHeartbeats = hears := by
  induction as using List.reverseRecOn with
  | nil => rfl
  | append_singleton as a ih => rw [run_snoc, hears_act, ih]

/-- Keeping a record changes nothing about a gate but its tree. -/
theorem run_recorded (as : List (Action ι)) :
    run m hears as = (run m.recorded hears as).map Prod.fst :=
  run_reads m.recorded_reads as

/-- The record of a run grows by what an action merges. -/
theorem merged_snoc (as : List (Action ι)) (a : Action ι) :
    merged m hears (as ++ [a]) = merged m hears as ++ (run m hears as).merges a := by
  have hmerges : (run m hears as).merges a = (run m.recorded hears as).merges a := by
    rw [run_recorded]
    cases a <;> rfl
  rw [merged, run_snoc, tree_act, Merge.recorded_replay, hmerges, merged]

/-- **The tree is made of the batches merged**, in their order. -/
theorem tree_run (as : List (Action ι)) :
    (run m hears as).tree = m.replay m.initial (merged m hears as) := by
  induction as using List.reverseRecOn with
  | nil => rfl
  | append_singleton as a ih =>
    rw [run_snoc, tree_act, merged_snoc, Merge.replay_append, ih]

/-- **Every batch is merged or held, once.** -/
theorem perm_run (as : List (Action ι)) :
    (merged m hears as ++ (run m hears as).held).Perm (arrivals as) := by
  induction as using List.reverseRecOn with
  | nil => simp [merged, run, fresh, arrivals, Merge.recorded]
  | append_singleton as a ih =>
    rw [merged_snoc, run_snoc, arrivals_snoc, List.append_assoc]
    calc
      (merged m hears as ++ ((run m hears as).merges a ++ ((run m hears as).act m a).1.held)).Perm
          (merged m hears as ++ ((run m hears as).held ++ a.batch?.toList)) :=
        (perm_act m _ a).append_left _
      _ = (merged m hears as ++ (run m hears as).held) ++ a.batch?.toList :=
        (List.append_assoc ..).symm
      List.Perm _ (arrivals as ++ a.batch?.toList) := ih.append_right _

/-! ## Pauses -/

/-- An open gate holds nothing back. -/
theorem held_of_open (h : (run m hears as).shut = false) : (run m hears as).held = [] := by
  induction as using List.reverseRecOn with
  | nil => rfl
  | append_singleton as a ih =>
    rw [run_snoc] at h ⊢
    rw [shut_act] at h
    cases a with
    | push batch =>
      have hs : (run m hears as).shut = false := by simpa using h
      simp [act, push, mergeNow, hs, ih hs]
    | seed batch =>
      have hs : (run m hears as).shut = false := by simpa using h
      simp [act, seed, mergeNow, hs, ih hs]
    | heartbeat => exact ih (by simpa using h)
    | pause => simp at h
    | resume =>
      by_cases hs : (run m hears as).shut
      · simp [act, resume, hs]
      · have hs : (run m hears as).shut = false := by simpa using hs
        simpa [act, resume, hs] using ih hs

/-- **The pause a gate is in**: it was open before, and nobody has opened
it since. -/
structure Paused (m : Merge ι τ ω) (hears : Bool) (as before during : List (Action ι)) : Prop where
  split : as = before ++ .pause :: during
  flowing : (run m hears before).shut = false
  lasting : .resume ∉ during

/-- While a gate is shut it merges nothing, and holds the snapshots, the
latest first, before the batches pushed. -/
theorem Paused.held {before during : List (Action ι)} (h : Paused m hears as before during) :
    (run m hears as).shut = true ∧ merged m hears as = merged m hears before ∧
      (run m hears as).held = (seeded during).reverse ++ pushed during := by
  obtain ⟨rfl, hopen, hnone⟩ := h
  induction during using List.reverseRecOn with
  | nil =>
    rw [run_snoc, merged_snoc, shut_act]
    exact ⟨by simp, by simp [merges], by simp [act, pause, held_of_open hopen, seeded, pushed]⟩
  | append_singleton during a ih =>
    obtain ⟨hs, hmerged, hheld⟩ := ih fun h => hnone (by simp [h])
    rw [← List.cons_append, ← List.append_assoc, run_snoc, merged_snoc, shut_act]
    cases a with
    | push batch =>
      exact ⟨by simp [hs], by simp [merges, hs, hmerged],
        by simp [act, push, hs, hheld, seeded, pushed]⟩
    | seed batch =>
      exact ⟨by simp [hs], by simp [merges, hs, hmerged],
        by simp [act, seed, hs, hheld, seeded, pushed]⟩
    | heartbeat =>
      exact ⟨by simp [hs], by simp [merges, hmerged], by simp [act, hheld, seeded, pushed]⟩
    | pause =>
      exact ⟨by simp, by simp [merges, hmerged], by simp [act, pause, hheld, seeded, pushed]⟩
    | resume => exact absurd List.mem_concat_self hnone

/-- **A shut gate is in a pause.** -/
theorem exists_paused (h : (run m hears as).shut = true) :
    ∃ before during, Paused m hears as before during := by
  induction as using List.reverseRecOn with
  | nil => cases h
  | append_singleton as a ih =>
    rw [run_snoc, shut_act] at h
    by_cases hs : (run m hears as).shut
    · -- the pause goes on
      obtain ⟨before, during, rfl, hopen, hnone⟩ := ih hs
      refine ⟨before, during ++ [a], by simp, hopen, fun hmem => ?_⟩
      rcases List.mem_append.1 hmem with hmem | hmem
      · exact hnone hmem
      · obtain rfl := List.mem_singleton.1 hmem
        simp at h
    · -- or begins
      have hs : (run m hears as).shut = false := by simpa using hs
      cases a with
      | pause => exact ⟨as, [], rfl, hs, List.not_mem_nil⟩
      | _ => simp [hs] at h

/-! ## Runs without pauses -/

/-- No snapshot came while the gate was shut. -/
def SeedsFlow (m : Merge ι τ ω) (hears : Bool) (as : List (Action ι)) : Prop :=
  ∀ before snapshot after, as = before ++ .seed snapshot :: after →
    (run m hears before).shut = false

/-- Without a pause a gate is open. -/
theorem shut_run_filter (as : List (Action ι)) :
    (run m hears (as.filter Action.flows)).shut = false := by
  induction as using List.reverseRecOn with
  | nil => rfl
  | append_singleton as a ih =>
    rw [List.filter_append]
    cases a with
    | pause => simpa [Action.flows] using ih
    | resume => simpa [Action.flows] using ih
    | _ =>
      simp only [List.filter_cons, List.filter_nil, Action.flows, if_true]
      rw [run_snoc, shut_act, ih]
      rfl

/-- **Pausing delays and does nothing else**: once what is held is merged,
the tree is that of the run without pauses. -/
theorem replay_held (h : SeedsFlow m hears as) :
    m.replay (run m hears as).tree (run m hears as).held =
      (run m hears (as.filter Action.flows)).tree := by
  induction as using List.reverseRecOn with
  | nil => rfl
  | append_singleton as a ih =>
    have ih := ih fun before snapshot after hsplit =>
      h before snapshot (after ++ [a]) (by simp [hsplit])
    have hflows : (run m hears (as.filter Action.flows)).shut = false := shut_run_filter as
    rw [List.filter_append]
    cases a with
    | push batch =>
      simp only [List.filter_cons, List.filter_nil, Action.flows, if_true]
      rw [run_snoc, run_snoc, tree_act m (run m hears (as.filter Action.flows)), ← ih]
      by_cases hs : (run m hears as).shut
      · simp [act, push, merges, hs, hflows, Merge.replay_append]
      · have hs : (run m hears as).shut = false := by simpa using hs
        simp [act, push, mergeNow, merges, hs, hflows, held_of_open hs, Merge.replay, Merge.next]
    | seed batch =>
      have hs : (run m hears as).shut = false := h as batch [] rfl
      simp only [List.filter_cons, List.filter_nil, Action.flows, if_true]
      rw [run_snoc, run_snoc, tree_act m (run m hears (as.filter Action.flows)), ← ih]
      simp [act, seed, mergeNow, merges, hs, hflows, held_of_open hs, Merge.replay, Merge.next]
    | heartbeat =>
      simp only [List.filter_cons, List.filter_nil, Action.flows, if_true]
      rw [run_snoc, run_snoc]
      exact ih
    | pause =>
      rw [run_snoc]
      simpa [Action.flows, act, pause] using ih
    | resume =>
      rw [run_snoc]
      by_cases hs : (run m hears as).shut
      · simpa [Action.flows, act, resume, hs, Merge.replay] using ih
      · simpa [Action.flows, act, resume, hs] using ih

/-! ## Faithful gates -/

/-- **What is faithful about a gate** that has seen some actions, whatever
comes next. -/
structure Faithful (m : Merge ι τ ω) (hears : Bool) (as : List (Action ι)) : Prop where
  /-- What has been merged and what is held is what has come, each batch
  once. -/
  complete : (merged m hears as ++ (run m hears as).held).Perm (arrivals as)
  /-- The tree is made of the batches merged, in the order recorded by a gate
  that is otherwise the same. -/
  tree : (run m hears as).tree = m.replay m.initial (merged m hears as) ∧
    (run m.recorded hears as).map Prod.fst = run m hears as
  /-- A batch that finds the gate open is merged at once. -/
  flowing : (run m hears as).shut = false → ∀ a batch, a.batch? = some batch →
    merged m hears (as ++ [a]) = merged m hears as ++ [batch]
  /-- Nothing else is merged but what is held when the gate opens. -/
  waiting : ∀ a, (run m hears as).shut = true ∨ a.batch? = none →
    (a = .resume → (run m hears as).shut = false) →
    merged m hears (as ++ [a]) = merged m hears as
  /-- A shut gate is in a pause, and when it opens it merges the snapshots of
  that pause, the latest first, then the batches pushed, in order. -/
  resumed : (run m hears as).shut = true → ∃ before during, Paused m hears as before during ∧
    merged m hears (as ++ [.resume]) =
      merged m hears before ++ (seeded during).reverse ++ pushed during ∧
    (run m hears (as ++ [.resume])).held = []
  /-- The tree is announced when a batch that finds the gate open changes it
  and when the gate opens, and at no other time. -/
  announced : ∀ a tree, reply m hears as a = some (.merged tree) ↔
    tree = (run m hears (as ++ [a])).tree ∧
      ((∃ batch, a.batch? = some batch ∧ (run m hears as).shut = false ∧
          (m.ingest (run m hears as).tree batch).changed = true) ∨
        a = .resume ∧ (run m hears as).shut = true)
  /-- A heartbeat is announced at once if anybody listens, and does nothing
  else. -/
  heartbeat : (∀ a, reply m hears as a = some .heartbeat ↔ a = .heartbeat ∧ hears = true) ∧
    run m hears (as ++ [.heartbeat]) = run m hears as
  /-- If all snapshots found it open, an open gate has the tree it would have
  without any pause. -/
  delayed : SeedsFlow m hears as → (run m hears as).shut = false →
    (run m hears as).tree = (run m hears (as.filter Action.flows)).tree

/-- **Pausing loses, doubles and moves nothing**, whatever is merged and in
every run. -/
theorem faithful_run (m : Merge ι τ ω) (hears : Bool) (as : List (Action ι)) :
    Faithful m hears as := by
  refine ⟨perm_run as, ⟨tree_run as, (run_recorded as).symm⟩, fun hs a batch hb => ?_,
    fun a hidle hresume => ?_, fun hs => ?_, fun a tree => ?_, ⟨fun a => ?_, ?_⟩,
    fun hseeds hs => ?_⟩
  · rw [merged_snoc]
    cases a <;> cases hb <;> simp [merges, hs]
  · rw [merged_snoc]
    cases a <;> simp_all [merges, Action.batch?]
  · obtain ⟨before, during, h⟩ := exists_paused hs
    obtain ⟨-, hmerged, hheld⟩ := h.held
    refine ⟨before, during, h, ?_, ?_⟩
    · rw [merged_snoc, hmerged, List.append_assoc, ← hheld]
      simp [merges, hs]
    · exact held_of_open (by simp [run_snoc, shut_act])
  · rw [reply, notice_act_eq_merged, announces_iff, run_snoc]
  · rw [reply, notice_act_eq_heartbeat, hears_run]
  · rw [run_snoc]
    rfl
  · rw [← replay_held hseeds, held_of_open hs]
    rfl

example :
    let m : Merge Nat Nat Empty := ⟨0, fun t batch => ⟨t + batch.sum, batch.sum != 0, []⟩⟩
    merged m true [.push [1], .pause, .push [2], .seed [30], .heartbeat, .push [0], .resume] =
      [[1], [30], [2], [0]] := by decide

end Gate

end Telemetry
