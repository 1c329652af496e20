import Telemetry.Proofs.Connection.Moment
import Telemetry.Simulation.Recorder
/-!
# Simulation — what is recorded is a course

Whatever is done in a world without a network, its connection is given some
stimuli as the clock goes, and nothing else comes into the record
(`kept_of_reached`). So it runs a course in order, and the record holds the
callbacks of that course (`course_of_reached`): all that is known of courses is
known of every simulated run.
-/

namespace Telemetry

namespace Simulation

open Connection

variable {ι : Type} {p : Plan ι} {w : World (Recorder ι)} {now : Nat}

namespace Recorder

/-- **A connection that is given stimuli at times**, with its record. -/
def run (p : Plan ι) (es : List (Nat × Stimulus)) : Recorder ι :=
  es.foldl (fun r e => (r.poke p e.1 e.2).1) ⟨.fresh, []⟩

theorem run_snoc (es : List (Nat × Stimulus)) (e : Nat × Stimulus) :
    run p (es ++ [e]) = ((run p es).poke p e.1 e.2).1 := by
  rw [run, List.foldl_append]
  rfl

/-- **It runs a course**, and its callbacks are on record. -/
theorem course_of_run (p : Plan ι) (es : List (Nat × Stimulus)) :
    (run p es).link = (course p es).link ∧
      (run p es).record.map Prod.snd = (course p es).told := by
  induction es using List.reverseRecOn with
  | nil => exact ⟨rfl, rfl⟩
  | append_singleton es e ih =>
    obtain ⟨hlink, hrecord⟩ := ih
    rw [run_snoc, course_snoc, ← Turn.follow_eq_take]
    constructor
    · simp [poke, Turn.follow, hlink]
    · simp [poke, Turn.follow, Turn.told, hlink, hrecord, Function.comp_def]

/-- A recorder has done nothing but record a run, in order and up to a time. -/
def Runs (p : Plan ι) (now : Nat) (r : Recorder ι) : Prop :=
  ∃ es, InOrder es ∧ (∀ e ∈ es, e.1 ≤ now) ∧ r = run p es

/-- A stimulus goes on with the run. -/
theorem Runs.poke {r : Recorder ι} (h : r.Runs p now) (s : Stimulus) :
    (r.poke p now s).1.Runs p now := by
  obtain ⟨es, horder, hpast, rfl⟩ := h
  refine ⟨es ++ [(now, s)], inOrder_snoc.2 ⟨horder, hpast⟩, fun e he => ?_,
    (run_snoc es (now, s)).symm⟩
  rcases List.mem_append.1 he with he | he
  · exact hpast e he
  · exact Nat.le_of_eq (congrArg Prod.fst (List.mem_singleton.1 he))

/-- Time goes by. -/
theorem Runs.wait {r : Recorder ι} {later : Nat} (h : r.Runs p now) (hle : now ≤ later) :
    r.Runs p later := by
  obtain ⟨es, horder, hpast, rfl⟩ := h
  exact ⟨es, horder, fun e he => Nat.le_trans (hpast e he) hle, rfl⟩

end Recorder

namespace World

/-- **A world at a time** whose recorder has done nothing but record. -/
def Kept (p : Plan ι) (now : Nat) (w : World (Recorder ι)) : Prop :=
  w.now = now ∧ w.host.Runs p now

theorem kept_poke (h : w.Kept p now) (link : Nat) (s : Stimulus) :
    (w.poke (Recorder.host p) link s).Kept p now := by
  obtain ⟨rfl, hruns⟩ := h
  have hpoked := hruns.poke s
  unfold World.poke
  dsimp only [Recorder.host]
  split
  · exact ⟨rfl, hpoked⟩
  · split
    · exact ⟨rfl, hpoked⟩
    · split
      · exact ⟨rfl, hpoked.poke _⟩
      · exact ⟨rfl, hpoked.poke _⟩

theorem kept_read? {w' : World (Recorder ι)} (h : w.Kept p now) {link : Nat}
    (hw : w.read? link = some w') : w'.Kept p now := by
  obtain ⟨l, -, rfl⟩ := Option.map_eq_some_iff.1 hw
  exact h

/-- A move is a stimulus or nothing to the connection. -/
theorem kept_move? {w' : World (Recorder ι)} (h : w.Kept p now) {link : Nat} {c : Connection}
    (hw : w.move? (Recorder.host p) link c = some w') : w'.Kept p now := by
  have halarm : ∀ due : Bool, (if due then some (w.poke (Recorder.host p) link .alarm) else none) =
      some w' → w'.Kept p now := by
    intro due hdue
    split at hdue
    · cases hdue
      exact kept_poke h link .alarm
    · cases hdue
  unfold move? at hw
  dsimp only at hw
  split at hw
  · cases hw
    exact kept_poke h link .leave
  · split at hw
    · cases hw
      exact kept_poke h link .start
    · split at hw
      · next epoch a line hline =>
        cases hw
        exact kept_poke (w := w.setLine link line) h link _
      · rcases Option.or_eq_some_iff.1 hw with hread | ⟨-, hdue⟩
        · exact kept_read? h hread
        · exact halarm _ hdue
    · exact halarm _ hw

theorem kept_exhaust (fuel : Nat) (h : w.Kept p now) :
    (exhaust (Recorder.host p) fuel w).Kept p now := by
  induction fuel generalizing w with
  | zero => exact h
  | succ fuel ih =>
    rw [exhaust]
    split
    · next w' hw =>
      obtain ⟨⟨c, link⟩, -, hmove⟩ := List.exists_of_findSome?_eq_some hw
      exact ih (kept_move? h hmove)
    · exact h

theorem kept_settle (h : w.Kept p now) : (settle (Recorder.host p) w).Kept p now :=
  kept_exhaust _ h

/-- No alarm goes off after the time that is waited for. -/
theorem nextAlarm?_le {σ : Type} {h : Host σ} {w : World σ} {limit t : Nat}
    (ht : w.nextAlarm? h limit = some t) : t ≤ limit := by
  simpa using (List.mem_filter.1 (List.min?_mem ht)).2

theorem kept_advanceTo {limit : Nat} (fuel : Nat) (h : w.Kept p now) (hle : now ≤ limit) :
    (w.advanceTo (Recorder.host p) limit fuel).Kept p limit := by
  induction fuel generalizing w now with
  | zero => exact ⟨rfl, h.2.wait hle⟩
  | succ fuel ih =>
    obtain ⟨rfl, hruns⟩ := h
    rw [advanceTo]
    split
    · next t ht =>
      exact ih (kept_settle ⟨rfl, hruns.wait (Nat.le_max_left ..)⟩)
        (Nat.max_le.2 ⟨hle, nextAlarm?_le ht⟩)
    · exact ⟨rfl, hruns.wait hle⟩

theorem kept_serve (h : w.Kept p now) (socket : Nat) (d : Deed) :
    (w.serve socket d).1.Kept p now := by
  unfold serve
  split
  · exact h
  · split
    · exact h
    · cases d with
      | send f =>
        dsimp only
        split <;> exact h
      | fail reason => exact h
      | drop => exact h

end World

/-- What can be done in a world with one connection. -/
inductive Reached (p : Plan ι) : World (Recorder ι) → Prop where
  | world (refusals : Nat) (answering : Bool) : Reached p (Recorder.world refusals answering)
  | refuse {w : World (Recorder ι)} (h : Reached p w) (n : Nat) : Reached p { w with refusals := n }
  | serve {w : World (Recorder ι)} (h : Reached p w) (socket : Nat) (d : World.Deed) :
      Reached p (w.serve socket d).1
  | poke {w : World (Recorder ι)} (h : Reached p w) (s : Stimulus) :
      Reached p (w.poke (Recorder.host p) 0 s)
  | settle {w : World (Recorder ι)} (h : Reached p w) : Reached p (w.settle (Recorder.host p))
  | advance {w : World (Recorder ι)} (h : Reached p w) (ms : Nat) :
      Reached p (w.advance (Recorder.host p) ms)

/-- **Every simulated run is one on record.** -/
theorem kept_of_reached (h : Reached p w) : w.Kept p w.now := by
  induction h with
  | world refusals answering => exact ⟨rfl, [], List.Pairwise.nil, nofun, rfl⟩
  | refuse h n ih => exact ih
  | serve h socket d ih =>
    have hserved := World.kept_serve ih socket d
    exact hserved.1.symm ▸ hserved
  | poke h s ih =>
    have hpoked := World.kept_poke ih 0 s
    exact hpoked.1.symm ▸ hpoked
  | settle h ih =>
    have hsettled := World.kept_settle ih
    exact hsettled.1.symm ▸ hsettled
  | advance h ms ih =>
    have hadvanced := World.kept_advanceTo (ms + 2) ih (Nat.le_add_right _ ms)
    rw [← World.advance] at hadvanced
    exact hadvanced.1.symm ▸ hadvanced

/-- **A simulated connection runs a course in order**, up to the time on the
clock. -/
theorem course_of_reached (h : Reached p w) :
    ∃ es, InOrder es ∧ (∀ e ∈ es, e.1 ≤ w.now) ∧ w.host.link = (course p es).link ∧
      w.host.record.map Prod.snd = (course p es).told := by
  obtain ⟨-, es, horder, hpast, hrun⟩ := kept_of_reached h
  rw [hrun]
  exact ⟨es, horder, hpast, Recorder.course_of_run p es⟩

end Simulation

end Telemetry
