import Telemetry.Proofs.Aggregate.Reported
/-!
# Aggregate — when a source shows rows again

Connecting the sources anew lets one that has failed show rows again, but it
leaves in its slot what stands there. The next rows come with the next tree the
gate announces, and a gate announces nothing when a batch is delivered that does
not change its tree (`Gate.announcements_ne_nil_iff`). So a source that delivers
what it has delivered before shows its old failure as long as it does, and one
that begins with nothing new shows nothing at all (`Recovers`).
-/

namespace Telemetry

namespace Gate

variable {ι τ ω : Type} {m : Merge ι τ ω}

/-- The batches that come in the course of some actions while the gate is open,
each with the tree it finds. -/
def deliveries (m : Merge ι τ ω) (g : Gate ι τ) : List (Action ι) → List (τ × List ι)
  | [] => []
  | a :: rest =>
    (if g.shut then none else a.batch?.map (g.tree, ·)).toList ++ deliveries m (g.act m a).1 rest

/-- Whether an action opens a gate that is shut. -/
def Action.resumes : Action ι → Bool
  | .resume => true
  | _ => false

/-- Whether some actions open the gate out of a pause. -/
def reopens (m : Merge ι τ ω) (g : Gate ι τ) : List (Action ι) → Bool
  | [] => false
  | a :: rest => g.shut && a.resumes || reopens m (g.act m a).1 rest

/-- A batch is delivered with the next action, or with one after it. -/
theorem exists_deliveries_cons {P : τ × List ι → Prop} (g : Gate ι τ) (a : Action ι)
    (rest : List (Action ι)) : (∃ d ∈ deliveries m g (a :: rest), P d) ↔
      (∃ batch, a.batch? = some batch ∧ g.shut = false ∧ P (g.tree, batch)) ∨
        ∃ d ∈ deliveries m (g.act m a).1 rest, P d := by
  have hhead : (∃ d ∈ (if g.shut then none else a.batch?.map (g.tree, ·)).toList, P d) ↔
      ∃ batch, a.batch? = some batch ∧ g.shut = false ∧ P (g.tree, batch) := by
    cases hshut : g.shut <;> cases hbatch : a.batch? <;> simp
  simp only [deliveries, List.mem_append, or_and_right, exists_or, hhead]

theorem reopens_cons (g : Gate ι τ) (a : Action ι) (rest : List (Action ι)) :
    reopens m g (a :: rest) = true ↔
      (a = .resume ∧ g.shut = true) ∨ reopens m (g.act m a).1 rest = true := by
  have hhead : (g.shut && a.resumes) = true ↔ a = .resume ∧ g.shut = true := by
    cases a <;> simp [Action.resumes]
  rw [reopens, Bool.or_eq_true, hhead]

/-- **A gate announces a tree** if a batch is delivered that changes it, or if it
is opened out of a pause. -/
theorem announcements_ne_nil_iff (g : Gate ι τ) (as : List (Action ι)) :
    announcements m g as ≠ [] ↔
      (∃ d ∈ deliveries m g as, (m.ingest d.1 d.2).changed = true) ∨ reopens m g as = true := by
  induction as generalizing g with
  | nil => simp [announcements, deliveries, reopens]
  | cons a rest ih =>
    have hcons : announcements m g (a :: rest) ≠ [] ↔
        g.announces m a = true ∨ announcements m (g.act m a).1 rest ≠ [] := by
      simp only [announcements, tree?_notice_act]
      cases g.announces m a <;> simp
    rw [hcons, ih, announces_iff, exists_deliveries_cons, reopens_cons]
    exact or_or_or_comm

end Gate

namespace Aggregate

variable {ι τ ρ ω : Type} {m : Merge ι τ ω} {rows : τ → List ρ} {i : Nat}

/-! ## One source -/

namespace Source

variable {s : Source ι τ ρ} {es : List (Event ι)}

@[simp] theorem gate_act (s : Source ι τ ρ) (a : Gate.Action ι) :
    (act m rows s a).1.gate = (s.gate.act m a).1 := by
  rw [act_eq]
  dsimp only
  split <;> rfl

@[simp] theorem givenUp_act (s : Source ι τ ρ) (a : Gate.Action ι) :
    (act m rows s a).1.givenUp = s.givenUp := by
  rw [act_eq]
  dsimp only
  split <;> rfl

/-- A source that has not given up shows the tree its gate announces. -/
theorem slot_act_of_connected (h : s.givenUp = false) (a : Gate.Action ι) :
    (act m rows s a).1.slot =
      (((s.gate.act m a).2.bind Gate.Notice.tree?).map (.rows ∘ rows)).getD s.slot := by
  rw [act_eq, Gate.tree?_notice_act]
  cases s.gate.announces m a <;> simp [h]

/-- No event but a failure makes a source give up. -/
theorem givenUp_after (h : s.givenUp = false) {e : Event ι} (he : e.failure? i = none) :
    (after m rows i s e).givenUp = false := by
  cases e with
  | gate j a =>
    simp only [after]
    split
    · rw [givenUp_act, h]
    · exact h
  | failed j reason =>
    have hj : j ≠ i := by simpa [Event.failure?] using he
    simpa [after, hj] using h
  | renew => rfl

/-- **A source that does not fail follows its gate**: it shows the last tree
announced, and before the first one what it has shown before. -/
theorem slot_foldl_of_connected (hconnected : s.givenUp = false) (hes : failures i es = []) :
    (es.foldl (after m rows i) s).slot =
      ((Gate.announcements m s.gate (actions i es)).getLast?.map (.rows ∘ rows)).getD s.slot := by
  induction es generalizing s with
  | nil => rfl
  | cons e rest ih =>
    rw [failures, List.filterMap_eq_nil_iff, List.forall_mem_cons] at hes
    obtain ⟨hfirst, hrest⟩ := hes
    rw [List.foldl_cons, ih (givenUp_after hconnected hfirst) (List.filterMap_eq_nil_iff.2 hrest)]
    cases e with
    | gate j a =>
      by_cases hj : j = i
      · have hactions : actions i (.gate j a :: rest) = a :: actions i rest := by
          simp [actions, Event.action?, hj]
        rw [hactions]
        simp only [after, hj, if_true, gate_act, Gate.announcements]
        rw [slot_act_of_connected hconnected, List.getLast?_append]
        -- the last tree is one of the later ones, or the one announced first
        cases (Gate.announcements m (s.gate.act m a).1 (actions i rest)).getLast? with
        | some tree => rfl
        | none => cases (s.gate.act m a).2.bind Gate.Notice.tree? <;> rfl
      · have hactions : actions i (.gate j a :: rest) = actions i rest := by
          simp [actions, Event.action?, hj]
        simp only [after, hj, if_false, hactions]
    | failed j reason =>
      have hj : j ≠ i := by simpa [Event.failure?] using hfirst
      simp only [after, hj, if_false]
      rfl
    | renew => rfl

/-- So it shows what it has shown before, if nothing is announced, -/
theorem slot_foldl_of_silent (hconnected : s.givenUp = false) (hes : failures i es = [])
    (hsilent : Gate.announcements m s.gate (actions i es) = []) :
    (es.foldl (after m rows i) s).slot = s.slot := by
  rw [slot_foldl_of_connected hconnected hes, hsilent]
  rfl

/-- and some rows if anything is. -/
theorem exists_rows_of_announced (hconnected : s.givenUp = false) (hes : failures i es = [])
    (hannounced : Gate.announcements m s.gate (actions i es) ≠ []) :
    ∃ r, (es.foldl (after m rows i) s).slot = .rows r := by
  obtain ⟨tree, hlast⟩ := Option.isSome_iff_exists.1 (List.getLast?_isSome.2 hannounced)
  refine ⟨rows tree, ?_⟩
  rw [slot_foldl_of_connected hconnected hes, hlast]
  rfl

/-- The rows that a settled source shows are those of its tree. -/
theorem Settled.shows_tree_iff {reasons : List String} (h : Settled m rows reasons s) :
    s.slot = .rows (rows s.gate.tree) ↔ ∃ r, s.slot = .rows r := by
  constructor
  · intro hrows
    exact ⟨_, hrows⟩
  · rintro ⟨r, hr⟩
    rw [hr, (h.shown r hr).1]

end Source

/-! ## Connecting anew -/

/-- **Sources have just been connected** if that is the last thing that has
happened. So have sources to which nothing has happened yet. -/
def Renewed (es : List (Event ι)) : Prop := es = [] ∨ es.getLast? = some .renew

/-- No source has given up when the sources have just been connected. -/
theorem givenUp_steps_of_renewed {locations : List Location} {es : List (Event ι)}
    {s : Source ι τ ρ} (h : Renewed es)
    (hs : ((fresh m locations).steps m rows es).1.sources[i]? = some s) : s.givenUp = false := by
  rcases h with rfl | hlast
  · simp only [steps, fresh, List.getElem?_map, Option.map_eq_some_iff] at hs
    obtain ⟨l, -, rfl⟩ := hs
    rfl
  · obtain ⟨before, rfl⟩ := List.getLast?_eq_some_iff.1 hlast
    rw [steps_snoc, getElem?_step, Option.map_eq_some_iff] at hs
    obtain ⟨s, -, rfl⟩ := hs
    rfl

/-- **What a source shows again**, given what has been done to its gate since
it was connected, and the source then and now. -/
structure Recovers (m : Merge ι τ ω) (rows : τ → List ρ) (since : List (Gate.Action ι))
    (old new : Source ι τ ρ) : Prop where
  /-- It shows the rows of its tree if it showed rows before, if a batch was
  delivered that changed the tree, or if the gate was opened out of a pause;
  and only then. -/
  shown : new.slot = .rows (rows new.gate.tree) ↔ (∃ r, old.slot = .rows r) ∨
    (∃ d ∈ Gate.deliveries m old.gate since, (m.ingest d.1 d.2).changed = true) ∨
      Gate.reopens m old.gate since = true
  /-- Whatever else is delivered, it shows what it showed before. -/
  kept : (∀ d ∈ Gate.deliveries m old.gate since, (m.ingest d.1 d.2).changed = false) →
    Gate.reopens m old.gate since = false → new.slot = old.slot

/-- It is enough that what the source shows is what it has. -/
theorem Recovers.of_settled {old new : Source ι τ ρ} {es : List (Event ι)} {reasons : List String}
    (hconnected : old.givenUp = false) (hes : failures i es = [])
    (hnew : es.foldl (Source.after m rows i) old = new)
    (hsettled : Source.Settled m rows reasons new) :
    Recovers m rows (actions i es) old new := by
  have hsilent : Gate.announcements m old.gate (actions i es) = [] → new.slot = old.slot := by
    intro hnone
    rw [← hnew]
    exact Source.slot_foldl_of_silent hconnected hes hnone
  have hannounced : Gate.announcements m old.gate (actions i es) ≠ [] →
      ∃ r, new.slot = .rows r := by
    intro hsome
    rw [← hnew]
    exact Source.exists_rows_of_announced hconnected hes hsome
  constructor
  · rw [hsettled.shows_tree_iff, ← Gate.announcements_ne_nil_iff]
    by_cases hnone : Gate.announcements m old.gate (actions i es) = []
    · simp [hnone, hsilent hnone]
    · simp [hnone, hannounced hnone]
  · intro hunchanged hopen
    refine hsilent (not_not.1 fun hsome => ?_)
    rcases (Gate.announcements_ne_nil_iff old.gate (actions i es)).1 hsome with
      ⟨d, hd, hchanged⟩ | hreopened
    · rw [hunchanged d hd] at hchanged
      cases hchanged
    · rw [hopen] at hreopened
      cases hreopened

/-- **What connected sources show again**: at every moment of every run, given
any earlier one at which they had just been connected. -/
theorem recovers_chronicle {s : Setting ι τ ρ ω} (hm : s.merge.Candid) (locations : List Location)
    (es : List (Nat × Live.Event ι)) (n : Nat) {old new : Source ι τ ρ} :
    let c := Chronicle.of s locations es
    Renewed (c.heard.take n) → failures i (c.heard.drop n) = [] →
    ((fresh s.merge locations).steps s.merge s.rows (c.heard.take n)).1.sources[i]? = some old →
    c.live.board.sources[i]? = some new →
    Recovers s.merge s.rows (actions i (c.heard.drop n)) old new := by
  intro c hrenewed hsince hold hnew
  have hboard : c.live.board = ((fresh s.merge locations).steps s.merge s.rows c.heard).1 :=
    congrArg Prod.fst (Chronicle.board_of s locations es)
  rw [hboard] at hnew
  have hsettled : Source.Settled s.merge s.rows (failures i c.heard) new :=
    settled_steps hm locations c.heard i new hnew
  rw [← List.take_append_drop n c.heard, steps_append, getElem?_steps, hold, Option.map_some,
    Option.some_inj] at hnew
  exact .of_settled (givenUp_steps_of_renewed hrenewed hold) hsince hnew hsettled

end Aggregate

end Telemetry
