import Telemetry.Proofs.Connection.Orderly
/-!
# Connection — moments

What a connection does at a single moment, as far as its times go: it dials, a
socket opens, a frame of the socket is heard, or it gives up by itself what it
waits for (`Lapses`). Each of them is a test of one step, which says what the
connection is given and finds; `Occurs` says at which times of a course a test
is met. A deadline is set at such moments and at no others (`listening_step`,
`dialing_step`), and what ends a wait other than a lapse is told to the
connection (`awaits_step`).
-/

namespace Telemetry

namespace Connection

variable {ι : Type} {p : Plan ι} {es : List (Nat × Stimulus)} {e : Nat × Stimulus}
variable {now epoch deadline : Nat} {c : Connection} {s : Stimulus}

/-! ## Times of a course -/

/-- **The clock does not go back** from one stimulus to the next. -/
def InOrder (es : List (Nat × Stimulus)) : Prop := es.Pairwise fun e e' => e.1 ≤ e'.1

theorem inOrder_snoc : InOrder (es ++ [e]) ↔ InOrder es ∧ ∀ e' ∈ es, e'.1 ≤ e.1 := by
  simp [InOrder, List.pairwise_append]

/-- **A test is met at a time** of a course, by what the connection is given
then and how it finds it. -/
def Occurs (p : Plan ι) (es : List (Nat × Stimulus)) (test : Nat → Connection → Stimulus → Prop)
    (u : Nat) : Prop :=
  ∃ before s after, es = before ++ (u, s) :: after ∧ test u (course p before).link s

theorem occurs_snoc {test : Nat → Connection → Stimulus → Prop} {u : Nat} :
    Occurs p (es ++ [e]) test u ↔
      Occurs p es test u ∨ u = e.1 ∧ test e.1 (course p es).link e.2 := by
  constructor
  · rintro ⟨before, s, after, hes, htest⟩
    obtain ⟨-, rfl, rfl⟩ | ⟨rest, -, rfl⟩ := split_snoc hes
    · exact .inr ⟨rfl, htest⟩
    · exact .inl ⟨before, s, rest, rfl, htest⟩
  · rintro (⟨before, s, after, rfl, htest⟩ | ⟨rfl, htest⟩)
    · exact ⟨before, s, after ++ [e], by simp, htest⟩
    · exact ⟨es, e.2, [], rfl, htest⟩

/-- Nothing has occurred later than the last stimulus. -/
theorem Occurs.le {test : Nat → Connection → Stimulus → Prop} {u : Nat}
    (h : Occurs p es test u) (horder : InOrder (es ++ [e])) : u ≤ e.1 := by
  obtain ⟨before, s, after, rfl, -⟩ := h
  exact (inOrder_snoc.1 horder).2 (u, s) (by simp)

/-- One more stimulus is one more step. -/
theorem link_snoc (p : Plan ι) (es : List (Nat × Stimulus)) (e : Nat × Stimulus) :
    (course p (es ++ [e])).link = (step p e.1 (course p es).link e.2).1 := by
  rw [course, List.foldl_append]
  rfl

/-! ## What a step does -/

/-- A connection dials. -/
def Dials (p : Plan ι) (now : Nat) (c : Connection) (s : Stimulus) : Prop :=
  dials (step p now c s).2 ≠ []

/-- The socket of an epoch opens. -/
def Opens (p : Plan ι) (epoch now : Nat) (c : Connection) (s : Stimulus) : Prop :=
  (∃ deadline, c.activity = .dialing deadline) ∧ s = .dialed (.ok ()) ∧
    (step p now c s).1.epoch = epoch

/-- A text or a ping of the socket of an epoch is handled. -/
def Hears (epoch _now : Nat) (c : Connection) (s : Stimulus) : Prop :=
  (∃ deadline, c.activity = .listening deadline) ∧ c.epoch = epoch ∧
    ∃ f, s = .frame epoch f ∧ f ≠ .close

/-- **A connection gives up by itself** what it waits for: time passes, and it
waits no longer. -/
def Lapses (p : Plan ι) (now : Nat) (c : Connection) (s : Stimulus) : Prop :=
  s = .alarm ∧ c.activity.awaits = true ∧ (step p now c s).1.activity.awaits = false

/-- A step is a turn that begins with nothing done. -/
theorem took_step (p : Plan ι) (now : Nat) (c : Connection) (s : Stimulus) :
    ∃ t, Turn.Took p now (.of c) s t ∧ step p now c s = (t.link, t.signals) :=
  ⟨_, Turn.took_take p now (.of c) s, rfl⟩

/-- Nothing has been dialed before. -/
@[simp] theorem Turn.dialed_of (c : Connection) : (Turn.of (ι := ι) c).dialed = [] := rfl

/-- **When a connection dials**: it starts, or its rest is over. It dials once and
last of all, and after a rest it does nothing else. -/
theorem Dials.cases (h : Dials p now c s) :
    (step p now c s).1.activity = .dialing (now + p.policy.heartbeatTimeout.millis) ∧
      ∃ before u, (step p now c s).2 = before ++ [.dial u] ∧ dials before = [] ∧
        (c.activity = .fresh ∨ before = [] ∧ ∃ time, c.activity = .resting time ∧ time ≤ now) := by
  obtain ⟨t, htook, hstep⟩ := took_step p now c s
  have hdialed : t.dialed ≠ [] := by rwa [Dials, hstep] at h
  rw [hstep]
  -- what fails for want of an address dials none
  have hattempt : ∀ t₀ : Turn ι, t₀.dialed = [] → (Turn.attempt p now t₀).dialed ≠ [] →
      ∃ u, Turn.attempt p now t₀ = .proceed ⟨t₀.count.link, t₀.signals ++ [.dial u]⟩
        (.dialing (now + p.policy.heartbeatTimeout.millis)) := by
    intro t₀ hnone hsome
    obtain ⟨f, -, ha⟩ | ⟨u, ha⟩ := Turn.attempt_cases p now t₀
    · rw [ha] at hsome
      exact absurd ((Turn.dialed_fail p t₀.count f).trans hnone) hsome
    · exact ⟨u, ha⟩
  cases htook with
  | ignored => exact absurd rfl hdialed
  | started hact =>
    have hnone : (Turn.enter p (.of c) .connecting 0).dialed = [] := Turn.dialed_enter ..
    obtain ⟨u, ha⟩ := hattempt _ hnone hdialed
    rw [ha]
    exact ⟨rfl, _, u, rfl, hnone, .inl hact⟩
  | opened deadline hact hs => exact absurd (Turn.dialed_greet ..) hdialed
  | lost f hl => exact absurd (Turn.dialed_lose f) hdialed
  | heard deadline f hact hf hs => exact absurd (Turn.dialed_hear hf) hdialed
  | retried time hact htime =>
    obtain ⟨u, ha⟩ := hattempt _ rfl hdialed
    rw [ha]
    exact ⟨rfl, [], u, rfl, rfl, .inr ⟨rfl, time, hact, htime⟩⟩
  | closed hs => exact absurd rfl hdialed
  | left hc hs => exact absurd rfl hdialed

/-- A connection that waits for the answer to an attempt makes it now, or has
waited for it. -/
theorem dialing_step (h : (step p now c s).1.activity = .dialing deadline) :
    Dials p now c s ∨ c.activity = .dialing deadline := by
  obtain ⟨t, htook, hstep⟩ := took_step p now c s
  rw [hstep] at h
  rw [Dials, hstep]
  -- an attempt that still waits has been made
  have hattempt : ∀ t₀ : Turn ι, (Turn.attempt p now t₀).link.activity = .dialing deadline →
      (Turn.attempt p now t₀).dialed ≠ [] := by
    intro t₀ hact
    rcases Turn.activity_attempt p now t₀ with ⟨-, hdials⟩ | ⟨hover, -⟩
    · exact hdials
    · cases hover.symm.trans hact
  cases htook with
  | ignored => exact .inr h
  | started hact => exact .inl (hattempt _ h)
  | opened deadline hact hs => cases h
  | lost f hl => rcases Turn.activity_lose p now (.of c) f with ha | ha <;> cases ha.symm.trans h
  | heard deadline f hact hf hs =>
    rw [Turn.activity_hear hf] at h
    cases h
  | retried time hact htime => exact .inl (hattempt _ h)
  | closed hs => exact .inr ((activity_shut c).symm.trans h)
  | left hc hs => cases h

theorem Opens.greet (h : Opens p epoch now c s) :
    (step p now c s).1 = (Turn.greet p now (.of c)).link := by
  obtain ⟨⟨deadline, hact⟩, rfl, -⟩ := h
  simp only [step, Turn.take, Turn.of, hact]

/-- A socket that opens sets the deadline. -/
theorem Opens.activity (h : Opens p epoch now c s) :
    (step p now c s).1.activity = .listening (now + p.policy.heartbeatTimeout.millis) := by
  rw [h.greet]
  rfl

/-- From then on the connection has been open, and if it had been before, the
epoch is a new one. -/
theorem Opens.enters (h : Opens p epoch now c s) :
    (step p now c s).1.opened = true ∧ (c.opened = true → c.epoch < epoch) := by
  have hepoch : (step p now c s).1.epoch = epoch := h.2.2
  rw [h.greet] at hepoch ⊢
  refine ⟨Turn.opened_greet, fun hopened => ?_⟩
  rw [← hepoch, Turn.epoch_greet]
  simp [Turn.advance, Turn.of, hopened]

theorem Hears.hear (h : Hears epoch now c s) (p : Plan ι) :
    ∃ f ≠ .close, (step p now c s).1 = (Turn.hear p now (.of c) epoch f).link := by
  obtain ⟨⟨deadline, hact⟩, rfl, f, rfl, hf⟩ := h
  refine ⟨f, hf, ?_⟩
  simp only [step, Turn.take, Turn.of, hact, if_pos]

/-- What is heard sets it anew, and the epoch goes on. -/
theorem Hears.activity (h : Hears epoch now c s) (p : Plan ι) :
    (step p now c s).1.activity = .listening (now + p.policy.heartbeatTimeout.millis) ∧
      (step p now c s).1.epoch = epoch := by
  obtain ⟨f, hf, hstep⟩ := h.hear p
  rw [hstep]
  exact ⟨Turn.activity_hear hf, (Turn.epoch_hear hf).trans h.2.1⟩

/-- **A connection that listens** begins to now, hears something now, or goes on
as before. -/
theorem listening_step (h : (step p now c s).1.activity = .listening deadline)
    (hepoch : (step p now c s).1.epoch = epoch) :
    Opens p epoch now c s ∨ Hears epoch now c s ∨
      c.activity = .listening deadline ∧ c.epoch = epoch := by
  obtain ⟨t, htook, hstep⟩ := took_step p now c s
  have hactivity : t.link.activity = .listening deadline := by rwa [hstep] at h
  have hphase : t.link.activity.phase = .seated := congrArg Activity.phase hactivity
  have hsame : t.link.epoch = epoch := by rwa [hstep] at hepoch
  cases htook with
  | ignored => exact .inr (.inr ⟨hactivity, hsame⟩)
  | started hact => cases (Turn.phase_attempt (p := p)).symm.trans hphase
  | opened deadline hact hs => exact .inl ⟨⟨deadline, hact⟩, hs, hepoch⟩
  | lost f hl => cases (Turn.phase_lose (p := p) f).symm.trans hphase
  | heard deadline f hact hf hs =>
    rw [Turn.epoch_hear hf] at hsame
    exact .inr (.inl ⟨⟨deadline, hact⟩, hsame, f, hsame ▸ hs, hf⟩)
  | retried time hact htime => cases (Turn.phase_attempt (p := p)).symm.trans hphase
  | closed hs =>
    exact .inr (.inr ⟨(activity_shut c).symm.trans hactivity, (epoch_shut c).symm.trans hsame⟩)
  | left hc hs => cases hactivity

/-- No epoch is entered but by a socket that opens. -/
theorem epoch_step (p : Plan ι) (now : Nat) (c : Connection) (s : Stimulus) :
    Opens p (step p now c s).1.epoch now c s ∨
      (step p now c s).1.epoch = c.epoch ∧ (step p now c s).1.opened = c.opened := by
  obtain ⟨t, htook, hstep⟩ := took_step p now c s
  cases htook with
  | opened deadline hact hs => exact .inl ⟨⟨deadline, hact⟩, hs, rfl⟩
  | ignored => exact .inr (by rw [hstep]; exact ⟨rfl, rfl⟩)
  | started hact => exact .inr (by rw [hstep]; simp [Turn.of])
  | lost f hl => exact .inr (by rw [hstep]; simp [Turn.of])
  | heard deadline f hact hf hs =>
    exact .inr (by rw [hstep]; exact ⟨Turn.epoch_hear hf, Turn.opened_hear hf⟩)
  | retried time hact htime => exact .inr (by rw [hstep]; simp [Turn.of])
  | closed hs => exact .inr (by rw [hstep]; exact ⟨epoch_shut c, opened_shut c⟩)
  | left hc hs => exact .inr (by rw [hstep]; exact ⟨rfl, rfl⟩)

/-! ## What ends a wait -/

/-- **A wait ends** with the loss of what was waited for, or because a connection
that is closed finds it out. -/
theorem awaits_step (h : c.activity.awaits = true)
    (hover : (step p now c s).1.activity.awaits = false) :
    (∃ f, Loss p now c s f) ∨ s = .leave ∧ c.closed = true := by
  obtain ⟨t, htook, hstep⟩ := took_step p now c s
  rw [hstep] at hover
  cases htook with
  | ignored => cases h.symm.trans hover
  | started hact => cases (congrArg Activity.awaits hact).symm.trans h
  | opened deadline hact hs => cases hover
  | lost f hl => exact .inl ⟨f, hl⟩
  | heard deadline f hact hf hs =>
    rw [Turn.activity_hear hf] at hover
    cases hover
  | retried time hact htime => cases (congrArg Activity.awaits hact).symm.trans h
  | closed hs =>
    rw [activity_shut] at hover
    cases h.symm.trans hover
  | left hc hs => exact .inr ⟨hs, hc⟩

/-- What is lost is lost in the step. -/
theorem Loss.step_eq {f : Fault} (h : Loss p now c s f) :
    step p now c s = ((Turn.lose p now (.of c) f).link, (Turn.lose p now (.of c) f).signals) := by
  cases h with
  | refused deadline f hact => simp only [step, Turn.take, Turn.of, hact]
  | reported deadline f hact => simp only [step, Turn.take, Turn.of, hact, if_pos]
  | ended deadline hact => simp only [step, Turn.take, Turn.of, hact, if_pos, Turn.hear]
  | lapsed deadline hact hdue =>
    rcases hact with hact | hact <;>
      simp only [step, Turn.take, Turn.of, Turn.wake, hact, if_pos hdue]

/-- **A wait lapses** exactly if it is due, and ends in a loss for silence. -/
theorem lapses_iff :
    Lapses p now c s ↔ s = .alarm ∧ Loss p now c .alarm (.silence p.policy.heartbeatTimeout) := by
  constructor
  · rintro ⟨rfl, hawaits, hover⟩
    rcases awaits_step hawaits hover with ⟨f, hl⟩ | ⟨hleave, -⟩
    · cases hl with
      | lapsed deadline hact hdue => exact ⟨rfl, .lapsed deadline hact hdue⟩
    · cases hleave
  · rintro ⟨rfl, hl⟩
    refine ⟨rfl, hl.awaits, ?_⟩
    rw [hl.step_eq]
    rcases Turn.activity_lose p now (.of c) (.silence p.policy.heartbeatTimeout) with ha | ha <;>
      exact congrArg Activity.awaits ha

/-- What lapses had a deadline. -/
theorem Lapses.due (h : Lapses p now c s) :
    ∃ deadline ≤ now, c.activity = .dialing deadline ∨ c.activity = .listening deadline := by
  obtain ⟨-, hl⟩ := lapses_iff.1 h
  cases hl with
  | lapsed deadline hact hdue => exact ⟨deadline, hdue, hact⟩

/-- **A connection that rests** has lost something now, or rests on. -/
theorem resting_step {time : Nat} (h : (step p now c s).1.activity = .resting time) :
    (∃ f, Loss p now c s f ∧ time = now + p.policy.reconnectDelay.millis) ∨
      c.activity = .resting time := by
  obtain ⟨t, htook, hstep⟩ := took_step p now c s
  rw [hstep] at h
  have hattempt : ∀ t₀ : Turn ι, (Turn.attempt p now t₀).link.activity ≠ .resting time := by
    intro t₀ hact
    rcases Turn.activity_attempt p now t₀ with ⟨ha, -⟩ | ⟨ha, -⟩ <;> cases ha.symm.trans hact
  cases htook with
  | ignored => exact .inr h
  | started hact => exact absurd h (hattempt _)
  | opened deadline hact hs => cases h
  | lost f hl =>
    rcases Turn.activity_lose p now (.of c) f with ha | ha <;> cases ha.symm.trans h
    exact .inl ⟨f, hl, rfl⟩
  | heard deadline f hact hf hs =>
    rw [Turn.activity_hear hf] at h
    cases h
  | retried time hact htime => exact absurd h (hattempt _)
  | closed hs => exact .inr ((activity_shut c).symm.trans h)
  | left hc hs => cases h

/-- Nothing undoes the start. -/
theorem fresh_step (h : (step p now c s).1.activity = .fresh) : c.activity = .fresh := by
  obtain ⟨t, htook, hstep⟩ := took_step p now c s
  have hphase : t.link.activity.phase = .silent := by
    rw [hstep] at h
    rw [h]
    rfl
  cases htook with
  | ignored => rwa [hstep] at h
  | started hact => exact hact
  | opened deadline hact hs => cases hphase
  | lost f hl => cases (Turn.phase_lose (p := p) f).symm.trans hphase
  | heard deadline f hact hf hs => cases (Turn.phase_hear hf).symm.trans hphase
  | retried time hact htime => cases (Turn.phase_attempt (p := p)).symm.trans hphase
  | closed hs =>
    rw [hstep] at h
    exact (activity_shut c).symm.trans h
  | left hc hs => cases hphase

/-- What is open after a step was open before. -/
theorem open_before_step (h : (step p now c s).1.closed = false) : c.closed = false :=
  (Turn.leads_take (p := p) (t := .of c) s).open_before h

/-! ## Why a connection gives up -/

namespace Turn

variable {t : Turn ι} {f f' : Fault}

theorem terminal_deliver {d : Callback ι} (h : .terminal f ∈ (deliver p t epoch d).told)
    (hd : d ≠ .terminal f) : .terminal f ∈ t.told := by
  unfold deliver at h
  split at h
  · exact h
  · rw [told_tell, List.mem_append, List.mem_singleton] at h
    exact h.resolve_right hd.symm

theorem terminal_enter {s : State} (h : .terminal f ∈ (enter p t s epoch).told) :
    .terminal f ∈ t.told := by
  unfold enter at h
  split at h
  · exact h
  · exact terminal_deliver (t := { t with link := { t.link with state := s } }) h nofun

theorem terminal_fail (h : .terminal f ∈ (fail p t f').told) : .terminal f ∈ t.told ∨ f = f' := by
  by_cases hf : f = f'
  · exact .inr hf
  · have hother : Callback.terminal (ι := ι) f' ≠ .terminal f := fun hsame => by
      cases hsame
      exact hf rfl
    exact .inl (terminal_enter (terminal_deliver (t := enter p t .closed t.link.epoch) h hother))

theorem terminal_attempt (h : .terminal f ∈ (attempt p now t).told) :
    .terminal f ∈ t.told ∨ ∃ n, p.address n = .error f := by
  obtain ⟨f', haddress, ha⟩ | ⟨u, ha⟩ := attempt_cases p now t <;> rw [ha] at h
  · exact (terminal_fail (t := t.count) h).imp_right fun hsame => ⟨_, hsame ▸ haddress⟩
  · exact .inl (by simpa [told, proceed] using h)

theorem terminal_lose (h : .terminal f ∈ (lose p now t f').told) :
    .terminal f ∈ t.told ∨ f = f' := by
  rcases lose_cases p now t f' with ⟨-, hlose⟩ | ⟨-, hlose⟩ <;> rw [hlose] at h
  · exact .inl (terminal_enter h)
  · exact terminal_fail h

theorem terminal_hear {frame : Frame} (hf : frame ≠ .close)
    (h : .terminal f ∈ (hear p now t epoch frame).told) : .terminal f ∈ t.told := by
  rcases hear_cases p now t epoch hf with ⟨d, hnews, hhear⟩ | hhear <;> rw [hhear] at h
  · refine terminal_deliver (t := proceed t (.listening _)) h fun hsame => ?_
    rw [hsame] at hnews
    cases hnews
  · exact h

end Turn

/-- **A connection gives up for a reason**: it has lost what it waits for, or
there is no address to dial. -/
theorem terminal_step {f : Fault} (h : .terminal f ∈ calls (step p now c s).2) :
    Loss p now c s f ∨ ∃ n, p.address n = .error f := by
  obtain ⟨t, htook, hstep⟩ := took_step p now c s
  have htold : .terminal f ∈ t.told := by rwa [hstep] at h
  have hnone : .terminal f ∉ (Turn.of (ι := ι) c).told := by simp [Turn.of, Turn.told, calls]
  cases htook with
  | ignored => exact absurd htold hnone
  | started hact =>
    exact .inr ((Turn.terminal_attempt htold).resolve_left fun hmem =>
      hnone (Turn.terminal_enter hmem))
  | opened deadline hact hs =>
    exact absurd (Turn.terminal_enter (t := Turn.advance (.of c)) htold) hnone
  | lost f' hl =>
    obtain rfl := (Turn.terminal_lose htold).resolve_left hnone
    exact .inl hl
  | heard deadline frame hact hf hs => exact absurd (Turn.terminal_hear hf htold) hnone
  | retried time hact htime => exact .inr ((Turn.terminal_attempt htold).resolve_left hnone)
  | closed hs => exact absurd htold hnone
  | left hc hs => exact absurd htold hnone

end Connection

end Telemetry
