import Telemetry.Proofs.Connection.Orderly
import Telemetry.Proofs.Connection.Race
/-!
# Connection — what is left after closing

Closing wins over everything that may still come: the handler hears no
more, and the state stays closed (`course_closes`). A closed connection may
still be busy, though, and only a course that keeps up with the clock can
be sure that it dials no more: whatever such a connection rests for lies
in the future (`Quits`), and it finds out first that it is closed.

It wins as well when the connection is closed in the middle of a step, by
one thread or by several (`closing_wins`).
-/

namespace Telemetry

namespace Connection

variable {ι : Type} {p : Plan ι} {now epoch : Nat} {t : Turn ι}

/-- What is done at a time leads to no attempt at that time. -/
def Activity.Idle (a : Activity) (now : Nat) : Prop :=
  a ≠ .fresh ∧ ∀ time, a = .resting time → now < time

/-- If the connection is closed, no attempt is due. -/
def Quits (c : Connection) (now : Nat) : Prop := c.closed = true → c.activity.Idle now

/-- Closed or not, a settled connection makes no attempt at the time. -/
theorem idle_of_settled {c : Connection} (h : c.settled now = true) : c.activity.Idle now := by
  simp only [settled, Bool.and_eq_true, bne_iff_ne] at h
  refine ⟨h.1.1, fun time ht => ?_⟩
  have halarm := h.1.2
  rw [ht] at halarm
  simpa [Activity.alarm?] using halarm

/-- What has settled and is closed has finished, and may wait for ever. -/
theorem quits_later {c : Connection} (h : c.settled now = true) (later : Nat) : c.Quits later := by
  intro hc
  simp only [settled, hc, Bool.and_eq_true, Bool.not_true, Bool.false_or, beq_iff_eq] at h
  exact ⟨by simp [h.2], fun time ht => absurd ht (by simp [h.2])⟩

namespace Turn

/-- **A closed connection does nothing that shows** unless an attempt is
due. -/
theorem signals_take (hc : t.link.closed = true) (hq : t.link.Quits now) (s : Stimulus) :
    (t.take p now s).signals = t.signals := by
  have htook := took_take p now t s
  generalize t.take p now s = t' at htook
  -- a callback needs an open connection, so only dialing would show
  have hfail : ∀ f, (fail p t f).signals = t.signals := fun f => by
    simp only [fail]
    rw [enter_of_closed hc, deliver_of_closed hc]
  cases htook with
  | ignored => rfl
  | started h => exact absurd h (hq hc).1
  | opened deadline h =>
    change (enter p t.advance .live t.advance.link.epoch).signals = _
    rw [enter_of_closed (t := t.advance) hc]
    rfl
  | lost f h =>
    rcases lose_cases p now t f with ⟨-, hlose⟩ | ⟨-, hlose⟩ <;> rw [hlose]
    · rw [enter_of_closed hc]
      rfl
    · exact hfail f
  | heard deadline f h hf =>
    rcases hear_cases p now t t.link.epoch hf with ⟨c, -, hhear⟩ | hhear <;> rw [hhear]
    · rw [deliver_of_closed (t := proceed t (.listening _)) hc]
      rfl
    · rfl
  | retried time h htime => exact absurd ((hq hc).2 time h) (Nat.not_lt.2 htime)
  | closed hs => rfl
  | left h => rfl

/-- An attempt leaves a connection dialing or finished. -/
theorem quits_attempt : (attempt p now t).link.Quits now := by
  obtain ⟨f, -, h⟩ | ⟨u, h⟩ := attempt_cases p now t <;> rw [h]
  · exact fun _ => ⟨by simp, by simp⟩
  · exact fun _ => ⟨by simp [proceed], by simp [proceed]⟩

/-- **Nothing that a connection takes in makes an attempt due**, if it
rests at all before the next one. -/
theorem quits_take (hdelay : 0 < p.policy.reconnectDelay.millis) (hq : t.link.Quits now)
    (s : Stimulus) (hs : s = .close → t.link.closed = true ∨ t.link.settled now = true) :
    (t.take p now s).link.Quits now := by
  have htook := took_take p now t s
  generalize t.take p now s = t' at htook
  cases htook with
  | ignored => exact hq
  | started h => exact quits_attempt
  | opened deadline h => exact fun _ => ⟨by simp [greet, proceed], by simp [greet, proceed]⟩
  | lost f h =>
    rcases activity_lose p now t f with hact | hact
    · -- it begins to rest now, and a rest takes time
      refine fun _ => ⟨by simp [hact], fun time ht => ?_⟩
      cases hact.symm.trans ht
      omega
    · exact fun _ => ⟨by simp [hact], by simp [hact]⟩
  | heard deadline f h hf =>
    have hact : (hear p now t t.link.epoch f).link.activity.phase = .seated := phase_hear hf
    exact fun _ => ⟨fun ha => by simp [ha, Activity.phase] at hact,
      fun time ha => by simp [ha, Activity.phase] at hact⟩
  | retried time h htime => exact quits_attempt
  | closed hclose =>
    intro _
    rw [activity_shut]
    obtain hc | hsettled := hs hclose
    · exact hq hc
    · exact idle_of_settled hsettled
  | left h => exact fun _ => ⟨by simp [proceed], by simp [proceed]⟩

/-! ## After a callback that closes -/

/-- **Nothing follows a callback that closes the connection**, but what
follows the very first one. -/
def Mute (p : Plan ι) (t : Turn ι) : Prop :=
  ∀ before c after, t.signals = before ++ .call c :: after →
    p.closesOn (calls before).length c = true → c ≠ .state .connecting 0 → after = []

/-- No callback has closed the connection but maybe the very first one. -/
def Harmless (p : Plan ι) (t : Turn ι) : Prop :=
  ∀ before c after, t.signals = before ++ .call c :: after →
    p.closesOn (calls before).length c = true → c = .state .connecting 0

theorem Harmless.mute (h : Harmless p t) : Mute p t :=
  fun before c after hs hc hne => absurd (h before c after hs hc) hne

section mute

variable (hl : Leads p (of fresh) t)

include hl

/-- No callback has closed an open connection. -/
theorem unclosed (ho : t.link.closed = false) {before after : List (Signal ι)} {c : Callback ι}
    (hs : t.signals = before ++ .call c :: after) :
    ¬ p.closesOn (calls before).length c = true := by
  intro hc
  have htold : t.told = calls before ++ c :: calls after := by
    rw [told, hs, List.append_cons, calls_append, calls_append, calls_call, List.append_assoc]
    rfl
  have hi : t.told[(calls before).length]? = some c := by simp [htold]
  exact absurd (hl.closes hi hc).2 (by simp [ho])

theorem harmless_of_open (ho : t.link.closed = false) : Harmless p t :=
  fun _ _ _ hs hc => absurd hc (unclosed hl ho hs)

theorem mute_tell (ho : t.link.closed = false) (c : Callback ι) : Mute p (tell p t c) := by
  intro before d after hs hc hne
  obtain ⟨hnil, -, -⟩ | ⟨rest, -, hs⟩ := split_snoc hs
  · exact hnil
  · exact absurd hc (unclosed hl ho hs)

theorem mute_deliver (hm : Mute p t) (c : Callback ι) : Mute p (deliver p t epoch c) := by
  unfold deliver
  split
  · exact hm
  · exact mute_tell hl (by simp_all) c

theorem mute_enter (hm : Mute p t) (s : State) : Mute p (enter p t s epoch) := by
  unfold enter
  split
  · exact hm
  · next ho =>
    refine mute_deliver (t := { t with link := { t.link with state := s } }) ?_ hm _
    exact hl.trans (.quiet rfl rfl rfl fun hc => absurd hc ho)

theorem mute_fail (hm : Mute p t) (f : Fault) : Mute p (fail p t f) :=
  mute_deliver (hl.trans (leads_enter (s := .closed) trivial)) (mute_enter hl hm .closed) _

/-- An attempt dials behind the callbacks run so far. -/
theorem mute_attempt (hh : Harmless p t) : Mute p (attempt p now t) := by
  obtain ⟨f, -, ha⟩ | ⟨u, ha⟩ := attempt_cases p now t <;> rw [ha]
  · exact mute_fail (t := t.count) (hl.trans (.quiet rfl rfl rfl fun _ => rfl)) hh.mute f
  · intro before c after hs hc hne
    obtain ⟨-, -, hx⟩ | ⟨rest, -, hs⟩ := split_snoc hs
    · cases hx
    · exact absurd (hh before c rest hs hc) hne

/-- A connection that starts may be closed by the very first callback. -/
theorem harmless_enter (ho : t.link.closed = false) : Harmless p (enter p t .connecting 0) := by
  simp only [enter, ho, Bool.false_eq_true, if_false, deliver]
  split
  · exact (harmless_of_open hl ho : Harmless p t)
  · intro before c after hs hc
    obtain ⟨-, -, hx⟩ | ⟨rest, -, hs⟩ := split_snoc hs
    · cases hx
      rfl
    · exact absurd hc (unclosed hl ho hs)

/-- **No stimulus leads on from a callback that closed the connection**,
unless an attempt is due. -/
theorem mute_take (hq : t.link.Quits now) (hm : Mute p t) (s : Stimulus) :
    Mute p (t.take p now s) := by
  by_cases hc : t.link.closed = true
  · intro before c after hs
    rw [signals_take hc hq] at hs
    exact hm before c after hs
  have ho : t.link.closed = false := by simpa using hc
  have htook := took_take p now t s
  generalize t.take p now s = t' at htook
  cases htook with
  | ignored => exact hm
  | started h =>
    -- the one case in which a callback is followed by an attempt
    have hentered : Leads p (of fresh) (enter p t .connecting 0) := hl.trans (leads_enter trivial)
    exact mute_attempt hentered (harmless_enter hl ho)
  | opened deadline h =>
    exact mute_enter (t := t.advance) (hl.trans (.quiet rfl rfl rfl fun _ => rfl)) hm .live
  | lost f h =>
    rcases lose_cases p now t f with ⟨-, hlose⟩ | ⟨-, hlose⟩ <;> rw [hlose]
    · exact mute_enter hl hm .reconnecting
    · exact mute_fail hl hm f
  | heard deadline f h hf =>
    rcases hear_cases p now t t.link.epoch hf with ⟨c, -, hhear⟩ | hhear <;> rw [hhear]
    · exact mute_deliver (t := proceed t (.listening _)) (hl.trans (leads_proceed _)) hm _
    · exact hm
  | retried time h htime => exact mute_attempt hl (harmless_of_open hl ho)
  | closed hs => exact hm
  | left h => exact hm

end mute

end Turn

/-! ## Courses that keep up with the clock -/

/-- The time of the last stimulus. -/
def clock (es : List (Nat × Stimulus)) : Nat := es.foldl (fun _ e => e.1) 0

theorem prompt_append (c : Connection) (es es' : List (Nat × Stimulus)) :
    prompt p c now (es ++ es') = (prompt p c now es &&
      prompt p (es.foldl (fun c e => (step p e.1 c e.2).1) c)
        (es.foldl (fun _ e => e.1) now) es') := by
  induction es generalizing c now with
  | nil => rfl
  | cons e es ih =>
    simp only [List.cons_append, prompt, ih, List.foldl_cons, Bool.and_assoc]

/-- What becomes of the connection depends on nothing it did. -/
theorem link_course (es : List (Nat × Stimulus)) :
    (course p es).link = es.foldl (fun c e => (step p e.1 c e.2).1) .fresh :=
  (List.foldl_hom Turn.link fun _ _ => rfl).symm

/-- **One more stimulus in time.** -/
theorem prompt_snoc {es : List (Nat × Stimulus)} {s : Stimulus}
    (h : prompt p .fresh 0 (es ++ [(now, s)]) = true) :
    prompt p .fresh 0 es = true ∧
      (now = clock es ∨ (course p es).link.settled (clock es) = true) ∧
      (s = .close → (course p es).link.closed = true ∨ (course p es).link.settled now = true) := by
  rw [prompt_append, ← link_course, Bool.and_eq_true] at h
  obtain ⟨hes, h⟩ := h
  simp only [prompt, Bool.and_true, Bool.and_eq_true, Bool.or_eq_true, beq_iff_eq] at h
  refine ⟨hes, h.1.imp_right fun h => h.2, fun hs => ?_⟩
  subst hs
  simpa using h.2

/-- **What keeping up with the clock is good for**: no attempt of a closed
connection is ever due. -/
theorem prompt_course (hdelay : 0 < p.policy.reconnectDelay.millis) (es : List (Nat × Stimulus))
    (h : prompt p .fresh 0 es = true) :
    (course p es).link.Quits (clock es) ∧ (course p es).Mute p := by
  induction es using List.reverseRecOn with
  | nil => exact ⟨fun hc => Bool.noConfusion hc, fun before c after hs => by simp [Turn.of] at hs⟩
  | append_singleton es e ih =>
    obtain ⟨now, s⟩ := e
    obtain ⟨hes, hclock, hclose⟩ := prompt_snoc h
    obtain ⟨hq, hm⟩ := ih hes
    have hq : (course p es).link.Quits now := by
      obtain rfl | hsettled := hclock
      · exact hq
      · exact quits_later hsettled now
    rw [course_snoc, clock, List.foldl_append]
    exact ⟨Turn.quits_take hdelay hq s hclose, Turn.mute_take (leads_from_fresh es) hq hm s⟩

/-! ## Closing wins -/

/-- Once a connection is closed its handler hears no more. -/
theorem told_of_closed {es : List (Nat × Stimulus)} (h : (course p es).link.closed = true)
    (es' : List (Nat × Stimulus)) : (course p (es ++ es')).told = (course p es).told := by
  obtain ⟨cs, htold, -, -, hnone, -⟩ := (leads_course (p := p) es es').told
  rw [htold, hnone h, List.append_nil]

/-- Nor does it do anything else, if it keeps up with the clock. -/
theorem signals_of_closed (hdelay : 0 < p.policy.reconnectDelay.millis)
    {es : List (Nat × Stimulus)} (hc : (course p es).link.closed = true)
    (es' : List (Nat × Stimulus)) (h : prompt p .fresh 0 (es ++ es') = true) :
    (course p (es ++ es')).signals = (course p es).signals := by
  induction es' using List.reverseRecOn with
  | nil => rw [List.append_nil]
  | append_singleton es' e ih =>
    obtain ⟨now, s⟩ := e
    rw [← List.append_assoc] at h ⊢
    obtain ⟨hes, hclock, -⟩ := prompt_snoc h
    -- either no time has passed, or it had settled before
    have hq : (course p (es ++ es')).link.Quits now := by
      obtain rfl | hsettled := hclock
      · exact (prompt_course hdelay _ hes).1
      · exact quits_later hsettled now
    rw [course_snoc, Turn.signals_take ((leads_course es es').closed hc) hq, ih hes]

/-- **What closing a connection means** for a course. -/
structure Closes (p : Plan ι) (es : List (Nat × Stimulus)) (t : Turn ι) : Prop where
  /-- Closed from outside, it tells nothing more and stays closed. -/
  outside : ∀ before now after, es = before ++ (now, .close) :: after →
    t.told = (course p before).told ∧ t.link.closed = true ∧ t.link.state = .closed
  /-- Nor does it closed from inside a callback, which is the last. -/
  inside : ∀ before c after, t.told = before ++ c :: after → p.closesOn before.length c = true →
    after = [] ∧ t.link.closed = true ∧ t.link.state = .closed
  /-- Closed from inside the last state, it gives no reason. -/
  suppressed : ∀ before epoch after, t.told = before ++ .state .closed epoch :: after →
    p.closesOn before.length (.state .closed epoch) = true → ∀ f, .terminal f ∉ t.told
  /-- If it rests between two attempts and keeps up with the clock, it does
  not even dial; only the very first callback is followed by an attempt
  all the same. -/
  undialed : 0 < p.policy.reconnectDelay.millis → prompt p .fresh 0 es = true →
    (∀ before now after, es = before ++ (now, .close) :: after →
      t.signals = (course p before).signals) ∧
    ∀ before c after, t.signals = before ++ .call c :: after →
      p.closesOn (calls before).length c = true → c ≠ .state .connecting 0 → after = []

/-- A course that closes the connection, or whose handler does, is over for
everyone. -/
theorem course_closes (p : Plan ι) (es : List (Nat × Stimulus)) : Closes p es (course p es) := by
  have inside : ∀ before c after, (course p es).told = before ++ c :: after →
      p.closesOn before.length c = true →
      after = [] ∧ (course p es).link.closed = true ∧ (course p es).link.state = .closed := by
    intro before c after htold hcloses
    have hi : (course p es).told[before.length]? = some c := by simp [htold]
    obtain ⟨hlast, hc⟩ := closes_course hi hcloses
    have hlength := congrArg List.length htold
    rw [List.length_append, List.length_cons] at hlength
    exact ⟨List.eq_nil_of_length_eq_zero (by omega), hc, state_course hc⟩
  -- the request itself closes the connection and does nothing else
  have asked : ∀ before now, (course p (before ++ [(now, .close)])).link.closed = true ∧
      (course p (before ++ [(now, .close)])).signals = (course p before).signals := by
    intro before now
    rw [course_snoc, take_close]
    exact ⟨closed_shut _, rfl⟩
  refine ⟨fun before now after hes => ?_, inside, fun before epoch after htold hcloses f hf => ?_,
    fun hdelay hprompt => ⟨fun before now after hes => ?_, (prompt_course hdelay es hprompt).2⟩⟩
  · rw [List.append_cons] at hes
    subst hes
    obtain ⟨hc, hsignals⟩ := asked before now
    have hc' := (leads_course (p := p) _ after).closed hc
    exact ⟨(told_of_closed hc after).trans (congrArg calls hsignals), hc', state_course hc'⟩
  · obtain ⟨hnil, -⟩ := inside _ _ _ htold hcloses
    obtain ⟨i, hi⟩ := List.mem_iff_getElem?.1 hf
    obtain ⟨hlast, -⟩ := (keeps_course p es).grammatical.terminal hi
    rw [htold, hnil, List.length_append, List.length_singleton] at hlast
    obtain rfl : i = before.length := by omega
    simp [htold] at hi
  · rw [List.append_cons] at hes
    subst hes
    obtain ⟨hc, hsignals⟩ := asked before now
    rw [signals_of_closed hdelay hc after hprompt, hsignals]

/-- **Whoever closed the connection is through**: the flag is raised, and the call
that raised it has returned. -/
def Race.Shut (r : Race ι) : Prop := r.turn.link.closed = true ∧ r.closing = false

/-- **What closing a connection means** when anyone may do so at any time. The call
that raises the flag is the one that closes it, and what closing promises holds from
its return on; a call that finds the flag raised has nothing to close. -/
structure ClosingWins (p : Plan ι) : Prop where
  /-- Between two steps, or from inside a callback, it takes effect at once. -/
  settled : ∀ es, Closes p es (course p es)
  /-- A call from outside that raises the flag returns when it passes the gate, -/
  outside : ∀ moves, (race p moves).waiting = true → (race p moves).hold = none →
    (race p (moves ++ [.pass])).Shut
  /-- which it does in the end, -/
  passed : ∀ moves, ∃ k, (race p (moves ++ List.replicate k .go ++ [.pass])).waiting = false
  /-- a call from inside a callback as soon as it has shown the last state, -/
  inside : ∀ moves, (race p moves).next = some .conclude → (race p (moves ++ [.go])).Shut
  /-- and any other call at once. -/
  further : ∀ moves, (race p moves).turn.link.closed = true →
    race p (moves ++ [.close]) = race p moves
  /-- When it has returned no callback begins, and the state stays closed. -/
  silent : ∀ moves later, (race p moves).Shut → (race p (moves ++ later)).Shut ∧
    (race p (moves ++ later)).turn.link.state = .closed ∧
    (race p (moves ++ later)).turn.told = (race p moves).turn.told
  /-- Until it has, one callback may begin that had been allowed before, also
  when another call has returned at once meanwhile. -/
  meanwhile : ∀ moves later, (race p moves).turn.link.closed = true →
    ∃ rest, (race p (moves ++ later)).turn.told ++ rest =
      (race p moves).turn.told ++ (race p moves).pending
  /-- Closing in the middle of a step leads nowhere that closing between two steps,
  or from inside a callback, does not lead, -/
  serial : ∀ moves, (race p moves).idle = true → (race p moves).closing = false →
    Serial p (race p moves).taken (race p moves).turn
  /-- and wherever that leads a race may lead. -/
  raced : ∀ es, ∃ moves, race p moves =
    ⟨course p es, [], none, false, es.filter fun e => !e.2 matches .close⟩

end Connection

end Telemetry
