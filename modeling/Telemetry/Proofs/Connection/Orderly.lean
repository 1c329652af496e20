import Telemetry.Proofs.Connection.Story
/-!
# Connection — every course is orderly

What a handler is told in the course of a connection, whatever stimuli
come and whenever, follows the grammar (`orderly_course`). With it goes
what the grammar leaves open: that a connection which does not reconnect
dials once, and that the state shown is the one last told of.
-/

namespace Telemetry

namespace Connection

variable {ι : Type} {p : Plan ι} {now epoch : Nat} {t : Turn ι}

/-- Where in its story an open connection is by what it does. -/
def Activity.phase : Activity → Phase
  | .fresh => .silent
  | .listening _ => .seated
  | .dialing _ | .resting _ | .finished => .between

/-- What waits for something to be lost has been told something. -/
theorem Activity.phase_ne_silent {a : Activity} (h : a.awaits = true) : a.phase ≠ .silent := by
  cases a <;> simp_all [awaits, phase]

namespace Turn

/-! ## The grammar -/

/-- **What is kept of the grammar**: an open connection is in a phase of
its story, and a closed one was told nothing that is not grammatical. -/
structure Keeps (t : Turn ι) (ph : Phase) : Prop where
  tells : t.link.closed = false → Tells ph t.link.opened t.link.epoch t.told
  grammatical : Grammatical t.told

variable {ph ph' : Phase}

theorem Keeps.of_closed (h : t.link.closed = true) (hg : Grammatical t.told) : Keeps t ph :=
  ⟨fun h' => absurd h (by simp [h']), hg⟩

theorem keeps_tell {c : Callback ι} (h : Tells ph t.link.opened t.link.epoch (t.told ++ [c])) :
    Keeps (tell p t c) ph := by
  rw [← told_tell p, ← opened_tell p t c, ← epoch_tell p t c] at h
  exact ⟨fun _ => h, h.grammatical⟩

/-- Entering a state goes on with the story as its callback does. -/
theorem keeps_enter {s : State} (h : Keeps t ph)
    (he : t.link.closed = false → epoch = t.link.epoch)
    (hs : Tells ph t.link.opened t.link.epoch t.told →
      Tells ph' t.link.opened t.link.epoch (t.told ++ [.state s epoch])) :
    Keeps (enter p t s epoch) ph' := by
  by_cases hc : t.link.closed = true
  · rw [enter_of_closed hc]
    exact .of_closed hc h.grammatical
  · have ho : t.link.closed = false := by simpa using hc
    rw [enter_of_open ho (he ho)]
    exact keeps_tell (hs (h.tells ho))

theorem keeps_fail (h : Keeps t ph) (hph : ph ≠ .silent) (f : Fault) :
    Keeps (fail p t f) .between := by
  refine .of_closed (closed_fail p t f) ?_
  change Grammatical (deliver p (enter p t .closed t.link.epoch) t.link.epoch (.terminal f)).told
  by_cases hc : t.link.closed = true
  · rw [enter_of_closed hc, deliver_of_closed hc]
    exact h.grammatical
  · have ho : t.link.closed = false := by simpa using hc
    have htells := h.tells ho
    rw [enter_of_open ho rfl]
    -- the handler may close the connection from inside the last state
    simp only [deliver]
    split
    · rw [told_tell]
      exact htells.grammatical_closed hph f (List.prefix_append [_] [_])
    · rw [told_tell, told_tell, List.append_assoc]
      exact htells.grammatical_closed hph f List.prefix_rfl

theorem keeps_attempt (h : Keeps t .between) : Keeps (attempt p now t) .between := by
  obtain ⟨f, -, ha⟩ | ⟨u, ha⟩ := attempt_cases p now t <;> rw [ha]
  · exact keeps_fail (t := t.count) ⟨h.tells, h.grammatical⟩ (by decide) f
  · have htold : (⟨t.link, t.signals ++ [.dial u]⟩ : Turn ι).told = t.told := by simp [told]
    exact ⟨fun hc => htold ▸ h.tells hc, htold ▸ h.grammatical⟩

theorem keeps_lose (h : Keeps t ph) (hph : ph ≠ .silent) (f : Fault) :
    Keeps (lose p now t f) .between := by
  rcases lose_cases p now t f with ⟨-, hlose⟩ | ⟨-, hlose⟩ <;> rw [hlose]
  · have h := keeps_enter (p := p) h (fun _ => rfl) fun h => h.reconnect hph
    exact ⟨h.tells, h.grammatical⟩
  · exact keeps_fail h hph f

theorem keeps_greet (h : Keeps t .between) : Keeps (greet p now t) .seated := by
  suffices h : Keeps (enter p t.advance .live t.advance.link.epoch) .seated from
    ⟨h.tells, h.grammatical⟩
  by_cases hc : t.link.closed = true
  · rw [enter_of_closed (t := t.advance) hc]
    exact .of_closed hc h.grammatical
  · have ho : t.link.closed = false := by simpa using hc
    rw [enter_of_open (t := t.advance) ho rfl]
    exact keeps_tell (h.tells ho).live

theorem keeps_hear (h : Keeps t .seated) {f : Frame} (hf : f ≠ .close) :
    Keeps (hear p now t t.link.epoch f) .seated := by
  rcases hear_cases p now t t.link.epoch hf with ⟨c, hnews, hhear⟩ | hhear <;> rw [hhear]
  · simp only [deliver]
    split
    · exact ⟨h.tells, h.grammatical⟩
    · next ho => exact keeps_tell ((h.tells (by simp_all [proceed])).hear hnews)
  · exact ⟨h.tells, h.grammatical⟩

@[simp] theorem phase_attempt : (attempt p now t).link.activity.phase = .between := by
  obtain ⟨f, -, h⟩ | ⟨u, h⟩ := attempt_cases p now t <;> rw [h] <;> rfl

@[simp] theorem phase_lose (f : Fault) : (lose p now t f).link.activity.phase = .between := by
  rcases activity_lose p now t f with h | h <;> rw [h] <;> rfl

@[simp] theorem phase_hear {f : Frame} (hf : f ≠ .close) :
    (hear p now t epoch f).link.activity.phase = .seated := by
  rw [activity_hear hf]
  rfl

/-- **Every stimulus keeps to the grammar.** -/
theorem keeps_take (h : Keeps t t.link.activity.phase) (s : Stimulus) :
    Keeps (t.take p now s) (t.take p now s).link.activity.phase := by
  have htook := took_take p now t s
  generalize t.take p now s = t' at htook
  cases htook with
  | ignored => exact h
  | started hact =>
    rw [hact] at h
    -- nothing was opened yet, so the first callback is of the current epoch
    have hentered : Keeps (enter p t .connecting 0) .between :=
      keeps_enter h (fun ho => (h.tells ho).begin.1.symm) fun htells => htells.begin.2
    rw [phase_attempt]
    exact keeps_attempt hentered
  | opened deadline hact =>
    rw [hact] at h
    exact keeps_greet h
  | lost f hact =>
    rw [phase_lose]
    exact keeps_lose h (Activity.phase_ne_silent hact.awaits) f
  | heard deadline f hact hf =>
    rw [hact] at h
    rw [phase_hear hf]
    exact keeps_hear h hf
  | retried time hact htime =>
    rw [hact] at h
    rw [phase_attempt]
    exact keeps_attempt h
  | closed hs => exact .of_closed (closed_shut _) h.grammatical
  | left hc => exact .of_closed hc h.grammatical

/-! ## Without a second attempt -/

/-- **A connection that does not reconnect** stays in its first epoch,
dials once at most, and never rests. -/
structure Single (t : Turn ι) : Prop where
  epoch : t.link.epoch = 0
  dialed : t.dialed.length ≤ 1
  silent : t.link.activity = .fresh → t.dialed = []
  unopened : t.link.activity = .fresh ∨ (∃ d, t.link.activity = .dialing d) → t.link.opened = false
  restless : ∀ time, t.link.activity ≠ .resting time

/-- It does whatever else, as long as it goes on with the same. -/
theorem Single.of_same {t' : Turn ι} (h : Single t) (hepoch : t'.link.epoch = t.link.epoch)
    (hdialed : t'.dialed = t.dialed) (hopened : t'.link.opened = t.link.opened)
    (hact : t'.link.activity = t.link.activity) : Single t' where
  epoch := hepoch.trans h.epoch
  dialed := hdialed ▸ h.dialed
  silent ha := hdialed.trans (h.silent (hact ▸ ha))
  unopened ha := hopened.trans (h.unopened (hact ▸ ha))
  restless time ha := h.restless time (hact ▸ ha)

/-- Listening or finished, it has only to keep its epoch and to dial no
more. -/
theorem Single.of_over {t' : Turn ι} (h : Single t) (hepoch : t'.link.epoch = 0)
    (hdialed : t'.dialed = t.dialed)
    (hover : t'.link.activity = .finished ∨ ∃ d, t'.link.activity = .listening d) : Single t' where
  epoch := hepoch
  dialed := hdialed ▸ h.dialed
  silent ha := by obtain h | ⟨d, h⟩ := hover <;> simp [h] at ha
  unopened ha := by obtain h | ⟨d, h⟩ := hover <;> simp [h] at ha
  restless time ha := by obtain h | ⟨d, h⟩ := hover <;> simp [h] at ha

theorem single_attempt (h : Single t) (hact : t.link.activity = .fresh) :
    Single (attempt p now t) := by
  obtain ⟨f, -, ha⟩ | ⟨u, ha⟩ := attempt_cases p now t <;> rw [ha]
  · refine h.of_over ?_ ?_ (.inl rfl)
    · rw [epoch_fail]
      exact h.epoch
    · rw [dialed_fail]
      rfl
  · have hdialed : (proceed ⟨t.count.link, t.signals ++ [.dial u]⟩
        (.dialing (now + p.policy.heartbeatTimeout.millis))).dialed = t.dialed ++ [u] := by
      simp [Turn.dialed, proceed]
    refine ⟨h.epoch, ?_, ?_, fun _ => h.unopened (.inl hact), ?_⟩
    · rw [hdialed, h.silent hact]
      exact Nat.le_refl 1
    · simp [proceed]
    · simp [proceed]

/-- **No stimulus leads to a second attempt.** -/
theorem single_take (hp : p.policy.autoReconnect = false) (h : Single t) (s : Stimulus) :
    Single (t.take p now s) := by
  have htook := took_take p now t s
  generalize t.take p now s = t' at htook
  cases htook with
  | ignored => exact h
  | started hact =>
    have hentered : Single (enter p t .connecting 0) :=
      h.of_same (epoch_enter ..) (dialed_enter ..) (opened_enter ..) (activity_enter ..)
    exact single_attempt hentered ((activity_enter ..).trans hact)
  | opened deadline hact =>
    -- this is the first socket, which opens in the first epoch
    have hepoch : t.advance.link.epoch = 0 := by
      simp [advance, h.unopened (.inr ⟨deadline, hact⟩), h.epoch]
    refine h.of_over ?_ ?_ (.inr ⟨_, rfl⟩)
    · exact (epoch_enter ..).trans hepoch
    · exact dialed_enter ..
  | lost f hact =>
    rcases lose_cases p now t f with ⟨hauto, -⟩ | ⟨-, hlose⟩
    · cases hp.symm.trans hauto
    · rw [hlose]
      exact h.of_over ((epoch_fail ..).trans h.epoch) (dialed_fail ..) (.inl rfl)
  | heard deadline f hact hf =>
    exact h.of_over ((epoch_hear hf).trans h.epoch) (dialed_hear hf) (.inr ⟨_, activity_hear hf⟩)
  | retried time hact htime => exact absurd hact (h.restless time)
  | closed hs => exact h.of_same (epoch_shut _) rfl (opened_shut _) (activity_shut _)
  | left hc => exact h.of_over h.epoch rfl (.inl rfl)

/-! ## The state shown -/

end Turn

/-- Whether the handler closes the connection from inside one of some
callbacks. -/
def Plan.ClosesIn (p : Plan ι) (cs : List (Callback ι)) : Prop :=
  ∃ i c, cs[i]? = some c ∧ p.closesOn i c = true

/-- What closed the connection once has closed it for good. -/
theorem Plan.ClosesIn.append {cs : List (Callback ι)} (h : p.ClosesIn cs)
    (more : List (Callback ι)) : p.ClosesIn (cs ++ more) := by
  obtain ⟨i, c, hi, hc⟩ := h
  refine ⟨i, c, ?_, hc⟩
  rw [List.getElem?_append_left (List.getElem?_eq_some_iff.1 hi).1, hi]

namespace Turn

/-- **A connection shows the state last told**, unless its handler has
closed it. -/
structure Honest (p : Plan ι) (t : Turn ι) : Prop where
  called : t.link.called = t.told.length
  state : t.link.state = lastState t.told ∨ p.ClosesIn t.told

theorem honest_tell {c : Callback ι} (ho : t.link.closed = false)
    (hcalled : t.link.called = t.told.length)
    (h : t.link.state = c.state?.getD (lastState t.told)) : Honest p (tell p t c) where
  called := by simp [hcalled]
  state := by
    rw [told_tell]
    by_cases hc : p.closesOn t.link.called c = true
    · -- the callback itself has closed the connection
      exact .inr ⟨t.link.called, c, by rw [hcalled]; simp, hc⟩
    · rw [state_tell p t c ho, if_neg hc, lastState_snoc]
      exact .inl h

theorem Honest.deliver (h : Honest p t) (epoch : Nat) {c : Callback ι} (hc : c.state? = none) :
    Honest p (deliver p t epoch c) := by
  unfold Turn.deliver
  split
  · exact h
  · next ho =>
    obtain hs | hs := h.state
    · exact honest_tell (by simp_all) h.called (by simp [hc, hs])
    · exact ⟨by simp [h.called], .inr (told_tell p t c ▸ hs.append [c])⟩

theorem Honest.enter (h : Honest p t) (he : t.link.closed = false → epoch = t.link.epoch)
    (s : State) : Honest p (enter p t s epoch) := by
  by_cases hc : t.link.closed = true
  · rwa [enter_of_closed hc]
  · have ho : t.link.closed = false := by simpa using hc
    rw [enter_of_open ho (he ho)]
    exact honest_tell ho h.called rfl

theorem Honest.fail (h : Honest p t) (f : Fault) : Honest p (fail p t f) :=
  have hends := (h.enter (fun _ => rfl) .closed).deliver t.link.epoch (c := .terminal f) rfl
  ⟨hends.called, hends.state⟩

theorem Honest.attempt (h : Honest p t) : Honest p (attempt p now t) := by
  obtain ⟨f, -, ha⟩ | ⟨u, ha⟩ := attempt_cases p now t <;> rw [ha]
  · exact Honest.fail (t := t.count) ⟨h.called, h.state⟩ f
  · have htold : (⟨t.link, t.signals ++ [.dial u]⟩ : Turn ι).told = t.told := by simp [told]
    exact ⟨htold ▸ h.called, htold ▸ h.state⟩

theorem Honest.lose (h : Honest p t) (f : Fault) : Honest p (lose p now t f) := by
  rcases lose_cases p now t f with ⟨-, hlose⟩ | ⟨-, hlose⟩ <;> rw [hlose]
  · have h := h.enter (fun _ => rfl) .reconnecting
    exact ⟨h.called, h.state⟩
  · exact h.fail f

/-- **Nothing but a close from outside changes the state unheard.** -/
theorem Honest.take (h : Honest p t) (hkeeps : Keeps t t.link.activity.phase) {s : Stimulus}
    (hs : s ≠ .close) : Honest p (t.take p now s) := by
  have htook := took_take p now t s
  generalize t.take p now s = t' at htook
  cases htook with
  | ignored => exact h
  | started hact =>
    rw [hact] at hkeeps
    exact (h.enter (fun ho => (hkeeps.tells ho).begin.1.symm) .connecting).attempt
  | opened deadline hact =>
    have h := Honest.enter (t := t.advance) ⟨h.called, h.state⟩ (fun _ => rfl) .live
    exact ⟨h.called, h.state⟩
  | lost f hact => exact h.lose f
  | heard deadline f hact hf =>
    rcases hear_cases p now t t.link.epoch hf with ⟨c, hnews, hhear⟩ | hhear <;> rw [hhear]
    · refine Honest.deliver (t := proceed t (.listening _)) ⟨h.called, h.state⟩ _ ?_
      cases c <;> first | rfl | cases hnews
    · exact ⟨h.called, h.state⟩
  | retried time hact htime => exact h.attempt
  | closed hclose => exact absurd hclose hs
  | left hc => exact ⟨h.called, h.state⟩

end Turn

/-! ## Courses -/

/-- Every course keeps to the grammar. -/
theorem keeps_course (p : Plan ι) (es : List (Nat × Stimulus)) :
    (course p es).Keeps (course p es).link.activity.phase :=
  course_induction (P := fun t => t.Keeps t.link.activity.phase)
    ⟨fun _ => .silent, Tells.silent.grammatical⟩ (fun _ _ s h => Turn.keeps_take h s) es

/-- Without reconnecting, no course leads to a second attempt. -/
theorem single_course (hp : p.policy.autoReconnect = false) (es : List (Nat × Stimulus)) :
    (course p es).Single :=
  course_induction (P := Turn.Single)
    ⟨rfl, Nat.zero_le 1, fun _ => rfl, fun _ => rfl, fun _ => Activity.noConfusion⟩
    (fun _ _ s h => Turn.single_take hp h s) es

/-- Whether someone has asked for the connection to be closed: from
outside, or from inside a callback. -/
def Asked (p : Plan ι) (es : List (Nat × Stimulus)) (cs : List (Callback ι)) : Prop :=
  (∃ e ∈ es, e.2 = .close) ∨ p.ClosesIn cs

/-- As long as nobody asks for it to be closed, a connection shows the
state last told. -/
theorem honest_course (es : List (Nat × Stimulus)) (h : ∀ e ∈ es, e.2 ≠ .close) :
    (course p es).Honest p := by
  induction es using List.reverseRecOn with
  | nil => exact ⟨rfl, .inl rfl⟩
  | append_singleton es e ih =>
    rw [course_snoc]
    exact (ih fun e he => h e (by simp [he])).take (keeps_course p es) (h e (by simp))

/-- **A connection that shows an open socket** listens, and nobody has closed
it. -/
theorem listens_of_live {es : List (Nat × Stimulus)} (h : (course p es).link.state = .live) :
    (course p es).link.activity.phase = .seated ∧ (course p es).link.closed = false := by
  have hopen : (course p es).link.closed = false := by
    by_contra hclosed
    rw [state_course (by simpa using hclosed)] at h
    cases h
  have hunasked : ∀ e ∈ es, e.2 ≠ .close := by
    intro e he hclose
    rw [closed_course ⟨e, he, hclose⟩] at hopen
    cases hopen
  have hlast : lastState (course p es).told = .live := by
    rcases (honest_course es hunasked).state with hstate | ⟨i, c, hi, hc⟩
    · exact hstate.symm.trans h
    · rw [(closes_course hi hc).2] at hopen
      cases hopen
  exact ⟨((keeps_course p es).tells hopen).seated_of_lastState hlast, hopen⟩

/-- **What is orderly about a course.** -/
structure Orderly (p : Plan ι) (es : List (Nat × Stimulus)) (t : Turn ι) : Prop where
  /-- The callbacks follow the grammar. -/
  grammatical : Grammatical t.told
  /-- A connection that does not reconnect has one epoch and dials once. -/
  single : p.policy.autoReconnect = false →
    (∀ epoch, .state .reconnecting epoch ∉ t.told) ∧ t.link.epoch = 0 ∧ t.dialed.length ≤ 1
  /-- One that does gives up only for want of an address. -/
  addressless : p.policy.autoReconnect = true →
    ∀ f, .terminal f ∈ t.told → ∃ n, p.address n = .error f
  /-- The reason to give up is told last, and right after `Closed`. -/
  terminal : ∀ i f, t.told[i]? = some (.terminal f) →
    i + 1 = t.told.length ∧ ∃ j e, i = j + 1 ∧ t.told[j]? = some (.state .closed e)
  /-- Someone asked for it, and the connection is closed. -/
  asked : Asked p es t.told → t.link.state = .closed
  /-- Or nobody did, and it shows the state last told. -/
  unasked : ¬ Asked p es t.told → t.link.state = lastState t.told

/-- **Every course is orderly**, whatever stimuli come and whenever. -/
theorem orderly_course (p : Plan ι) (es : List (Nat × Stimulus)) :
    Orderly p es (course p es) := by
  have hkeeps := keeps_course p es
  have hallows := allows_course (p := p) es
  refine ⟨hkeeps.grammatical, fun hp => ⟨fun epoch h => ?_, ?_, ?_⟩, fun hp f h => ?_,
    fun i f hi => hkeeps.grammatical.terminal hi, ?_, fun hn => ?_⟩
  · exact absurd (hallows _ h) (by simp [Plan.Allows, hp])
  · exact (single_course hp es).epoch
  · exact (single_course hp es).dialed
  · exact hallows _ h hp
  · rintro (hclose | ⟨i, c, hi, hc⟩)
    · exact state_course (closed_course hclose)
    · exact state_course (closes_course hi hc).2
  · have hunasked : ∀ e ∈ es, e.2 ≠ .close := fun e he h => hn (.inl ⟨e, he, h⟩)
    exact (honest_course es hunasked).state.resolve_right fun h => hn (.inr h)

end Connection

end Telemetry
