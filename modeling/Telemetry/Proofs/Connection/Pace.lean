import Telemetry.Proofs.Connection.Moment
import Telemetry.Proofs.Connection.Story
/-!
# Connection — the pace of attempts

A connection never dials twice without a rest between. What it dials for is
lost first, at once or after it has waited as long as it may, then its handler
is told, and then it rests (`paced_course`). Two facts carry this from one
attempt to the next. Whatever it does since it dialed, a connection knows how
long it has to wait, and from when (`waits_since`); and as long as nobody has
closed it, its handler has been told once that it reconnects exactly if it
rests (`rest_step`).
-/

namespace Telemetry

namespace Connection

variable {ι : Type} {p : Plan ι} {es start more : List (Nat × Stimulus)} {e : Nat × Stimulus}
variable {now : Nat} {c : Connection} {s : Stimulus}

/-! ## Since a moment -/

/-- A test is met after the first stimuli of a course, by one of those that
follow. -/
def Since (p : Plan ι) (start more : List (Nat × Stimulus))
    (test : Nat → Connection → Stimulus → Prop) : Prop :=
  ∃ before e after, more = before ++ e :: after ∧ test e.1 (course p (start ++ before)).link e.2

theorem not_since_nil {test : Nat → Connection → Stimulus → Prop} : ¬ Since p start [] test := by
  rintro ⟨before, e, after, hmore, -⟩
  simp at hmore

theorem since_snoc {test : Nat → Connection → Stimulus → Prop} :
    Since p start (more ++ [e]) test ↔
      Since p start more test ∨ test e.1 (course p (start ++ more)).link e.2 := by
  constructor
  · rintro ⟨before, e', after, hmore, htest⟩
    obtain ⟨-, rfl, rfl⟩ | ⟨rest, -, rfl⟩ := split_snoc hmore
    · exact .inr htest
    · exact .inl ⟨before, e', rest, rfl, htest⟩
  · rintro (⟨before, e', after, rfl, htest⟩ | htest)
    · exact ⟨before, e', after ++ [e], by simp, htest⟩
    · exact ⟨more, e, [], rfl, htest⟩

/-- An attempt is answered. -/
def Answers (_now : Nat) (c : Connection) (s : Stimulus) : Prop :=
  (∃ deadline, c.activity = .dialing deadline) ∧ ∃ result, s = .dialed result

/-- **An attempt came to nothing by silence**: it was never answered, or the
socket that it opened was given up as stale. -/
def Stalled (p : Plan ι) (start more : List (Nat × Stimulus)) : Prop :=
  ¬ Since p start more Answers ∨ Since p start more (Lapses p)

/-- What is silent later was silent before, or has lapsed now. -/
theorem stalled_snoc (h : Stalled p start (more ++ [e])) :
    Stalled p start more ∨ Lapses p e.1 (course p (start ++ more)).link e.2 := by
  rcases h with hnone | hlapsed
  · exact .inl (.inl fun hanswered => hnone (since_snoc.2 (.inl hanswered)))
  · exact (since_snoc.1 hlapsed).imp_left .inr

/-- What waits after a step has not lapsed in it. -/
theorem not_lapses_of_awaits (h : (step p now c s).1.activity.awaits = true) :
    ¬ Lapses p now c s := by
  rintro ⟨-, -, hover⟩
  cases h.symm.trans hover

/-- **What a connection waits for** that dialed at a time and has not dialed
since. -/
structure Waits (p : Plan ι) (began : Nat) (start more : List (Nat × Stimulus)) (a : Activity) :
    Prop where
  started : a ≠ .fresh
  dialing : ∀ deadline, a = .dialing deadline →
    deadline = began + p.policy.heartbeatTimeout.millis ∧ ¬ Since p start more (Lapses p)
  listening : ∀ deadline, a = .listening deadline →
    began + p.policy.heartbeatTimeout.millis ≤ deadline ∧ ¬ Stalled p start more
  resting : ∀ time, a = .resting time →
    began + p.policy.reconnectDelay.millis ≤ time ∧ (Stalled p start more →
      began + p.policy.heartbeatTimeout.millis + p.policy.reconnectDelay.millis ≤ time)

/-- A loss sends a connection to rest, and one for silence does not come early. -/
theorem Waits.loss {began : Nat} {f : Fault}
    (h : Waits p began start more (course p (start ++ more)).link.activity)
    (hl : Loss p e.1 (course p (start ++ more)).link e.2 f) :
    Stalled p start (more ++ [e]) → began + p.policy.heartbeatTimeout.millis ≤ e.1 := by
  intro hstalled
  generalize hs : e.2 = s at hl
  cases hl with
  | refused deadline f hact =>
    -- it was answered, and had not lapsed before
    rcases hstalled with hnone | hlapsed
    · exact absurd (since_snoc.2 (.inr ⟨⟨deadline, hact⟩, .error f, hs⟩)) hnone
    · rcases since_snoc.1 hlapsed with hbefore | ⟨halarm, -⟩
      · exact absurd hbefore (h.dialing deadline hact).2
      · cases hs.symm.trans halarm
  | reported deadline f hact =>
    rcases stalled_snoc hstalled with hbefore | ⟨halarm, -⟩
    · exact absurd hbefore (h.listening deadline hact).2
    · cases hs.symm.trans halarm
  | ended deadline hact =>
    rcases stalled_snoc hstalled with hbefore | ⟨halarm, -⟩
    · exact absurd hbefore (h.listening deadline hact).2
    · cases hs.symm.trans halarm
  | lapsed deadline hact hdue =>
    rcases hact with hact | hact
    · exact (h.dialing deadline hact).1 ▸ hdue
    · exact Nat.le_trans (h.listening deadline hact).1 hdue

/-- **One more step without dialing.** -/
theorem Waits.step {began : Nat}
    (h : Waits p began start more (course p (start ++ more)).link.activity) (hbegan : began ≤ e.1)
    (hquiet : ¬ Dials p e.1 (course p (start ++ more)).link e.2) :
    Waits p began start (more ++ [e])
      (step p e.1 (course p (start ++ more)).link e.2).1.activity where
  started hact := h.started (fresh_step hact)
  dialing deadline hact := by
    have hwaited := (dialing_step hact).resolve_left hquiet
    obtain ⟨hdeadline, hnone⟩ := h.dialing deadline hwaited
    refine ⟨hdeadline, fun hlapsed => ?_⟩
    rcases since_snoc.1 hlapsed with hbefore | hnow
    · exact hnone hbefore
    · exact not_lapses_of_awaits (by rw [hact]; rfl) hnow
  listening deadline hact := by
    have hnow : ¬ Lapses p e.1 (course p (start ++ more)).link e.2 :=
      not_lapses_of_awaits (by rw [hact]; rfl)
    rcases listening_step hact rfl with hopens | hhears | ⟨hlistens, -⟩
    · -- the attempt has been answered in time
      obtain ⟨⟨deadline₀, hdialing⟩, hs, -⟩ := id hopens
      obtain rfl := Activity.listening.inj (hopens.activity.symm.trans hact)
      refine ⟨by omega, ?_⟩
      rintro (hnone | hlapsed)
      · exact hnone (since_snoc.2 (.inr ⟨⟨deadline₀, hdialing⟩, _, hs⟩))
      · exact (since_snoc.1 hlapsed).elim (h.dialing deadline₀ hdialing).2 hnow
    · obtain ⟨⟨deadline₀, hlistens⟩, -⟩ := id hhears
      obtain rfl := Activity.listening.inj ((hhears.activity p).1.symm.trans hact)
      exact ⟨by omega, fun hstalled =>
        (stalled_snoc hstalled).elim (h.listening deadline₀ hlistens).2 hnow⟩
    · obtain ⟨hdeadline, hnone⟩ := h.listening deadline hlistens
      exact ⟨hdeadline, fun hstalled => (stalled_snoc hstalled).elim hnone hnow⟩
  resting time hact := by
    rcases resting_step hact with ⟨f, hl, rfl⟩ | hrests
    · refine ⟨by omega, fun hstalled => ?_⟩
      have hlate := h.loss hl hstalled
      omega
    · obtain ⟨htime, hlate⟩ := h.resting time hrests
      refine ⟨htime, fun hstalled => hlate ((stalled_snoc hstalled).resolve_right ?_)⟩
      rintro ⟨-, hawaits, -⟩
      rw [hrests] at hawaits
      cases hawaits

/-- **Since it dialed**, a connection waits from then. -/
theorem waits_since {first : Nat × Stimulus} (horder : InOrder (es ++ [first] ++ more))
    (hdials : Dials p first.1 (course p es).link first.2)
    (hnone : ¬ Since p (es ++ [first]) more (Dials p)) :
    Waits p first.1 (es ++ [first]) more (course p (es ++ [first] ++ more)).link.activity := by
  induction more using List.reverseRecOn with
  | nil =>
    rw [List.append_nil, link_snoc, hdials.cases.1]
    refine ⟨nofun, fun deadline hact => ?_, nofun, nofun⟩
    exact ⟨(Activity.dialing.inj hact).symm, not_since_nil⟩
  | append_singleton more e ih =>
    rw [← List.append_assoc] at horder ⊢
    rw [since_snoc, not_or] at hnone
    obtain ⟨hbefore, hlast⟩ := inOrder_snoc.1 horder
    rw [link_snoc]
    exact (ih hbefore hnone.1).step (hlast first (by simp)) hnone.2

/-! ## What the handler is told -/

/-- How often one is told that the connection reconnects. -/
def reconnections (cs : List (Callback ι)) : Nat :=
  cs.countP fun c => c.state? == some .reconnecting

@[simp] theorem reconnections_nil : reconnections ([] : List (Callback ι)) = 0 := rfl

@[simp] theorem reconnections_append (cs cs' : List (Callback ι)) :
    reconnections (cs ++ cs') = reconnections cs + reconnections cs' := List.countP_append

/-- News tells of no state. -/
theorem reconnections_image (p : Plan ι) (f : Frame) :
    reconnections (p.image f).toList = 0 := by
  cases h : p.image f with
  | none => rfl
  | some c =>
    have hnews := isNews_of_image h
    cases c with
    | data | heartbeat => rfl
    | _ => cases hnews

/-- How many rests it is in. -/
def Activity.rests : Activity → Nat
  | .resting _ => 1
  | _ => 0

/-- What waits does not rest. -/
theorem Activity.rests_of_awaits {a : Activity} (h : a.awaits = true) : a.rests = 0 := by
  cases a <;> first | rfl | cases h

/-- **One step without dialing**, after which nobody has closed the connection:
its handler is told that it reconnects exactly if it begins to rest. -/
theorem rest_step (hquiet : ¬ Dials p now c s) (ho : (step p now c s).1.closed = false) :
    c.activity.rests + reconnections (calls (step p now c s).2) =
      (step p now c s).1.activity.rests := by
  have hc : c.closed = false := open_before_step ho
  obtain ⟨t, htook, hstep⟩ := took_step p now c s
  rw [Dials, hstep] at hquiet
  rw [hstep] at ho ⊢
  -- an attempt dials, or closes the connection
  have hattempt : ∀ t₀ : Turn ι, (Turn.attempt p now t₀).link.closed = false →
      (Turn.attempt p now t₀).dialed ≠ [] := by
    intro t₀ hopen
    rcases Turn.activity_attempt p now t₀ with ⟨-, hdials⟩ | ⟨-, hclosed⟩
    · exact hdials
    · cases hclosed.symm.trans hopen
  change c.activity.rests + reconnections t.told = t.link.activity.rests
  cases htook with
  | ignored => rfl
  | started hact => exact absurd (hattempt _ ho) hquiet
  | opened deadline hact hs =>
    rw [Turn.told_greet (t := .of c) hc, show c.activity = .dialing deadline from hact]
    rfl
  | lost f hl =>
    rw [show c.activity.rests = 0 from Activity.rests_of_awaits hl.awaits]
    rcases Turn.lose_cases p now (.of c) f with ⟨-, hlose⟩ | ⟨-, hlose⟩ <;> rw [hlose] at ho ⊢
    · rw [Turn.enter_of_open (t := .of c) hc rfl]
      change 0 + reconnections (Turn.tell p _ _).told = 1
      rw [Turn.told_tell]
      rfl
    · cases ho
  | heard deadline f hact hf hs =>
    rw [Turn.told_hear (t := .of c) hf hc, Turn.activity_hear hf,
      show c.activity = .listening deadline from hact]
    change 0 + reconnections ([] ++ (p.image f).toList) = 0
    rw [List.nil_append, reconnections_image]
  | retried time hact htime => exact absurd (hattempt _ ho) hquiet
  | closed hs => cases (closed_shut c).symm.trans ho
  | left hclosed hs => cases (show c.closed = true from hclosed).symm.trans hc

/-- One more stimulus adds the signals of its step. -/
theorem signals_snoc (p : Plan ι) (es : List (Nat × Stimulus)) (e : Nat × Stimulus) :
    (course p (es ++ [e])).signals =
      (course p es).signals ++ (step p e.1 (course p es).link e.2).2 := by
  rw [course, List.foldl_append]
  rfl

/-- **As long as a connection does not dial**, and nobody has closed it, its
handler is told once more that it reconnects exactly if the connection has begun
to rest. -/
theorem rest_course (hnone : ¬ Since p start more (Dials p)) :
    ∃ sigs, (course p (start ++ more)).signals = (course p start).signals ++ sigs ∧
      dials sigs = [] ∧ ((course p (start ++ more)).link.closed = false →
        (course p start).link.activity.rests + reconnections (calls sigs) =
          (course p (start ++ more)).link.activity.rests) := by
  induction more using List.reverseRecOn with
  | nil => exact ⟨[], by simp, rfl, fun _ => by rw [List.append_nil]; rfl⟩
  | append_singleton more e ih =>
    rw [since_snoc, not_or] at hnone
    obtain ⟨sigs, hsigs, hdials, hrests⟩ := ih hnone.1
    have hquiet := hnone.2
    rw [← List.append_assoc, signals_snoc, link_snoc, hsigs]
    refine ⟨sigs ++ (step p e.1 (course p (start ++ more)).link e.2).2, List.append_assoc ..,
      ?_, fun ho => ?_⟩
    · rw [dials_append, hdials, List.nil_append]
      exact not_not.1 hquiet
    · rw [calls_append, reconnections_append, ← Nat.add_assoc, hrests (open_before_step ho)]
      exact rest_step hquiet ho

/-! ## Attempts -/

/-- **Two attempts** of a course, one after the other. -/
structure Retry (p : Plan ι) (es : List (Nat × Stimulus)) where
  before : List (Nat × Stimulus)
  first : Nat × Stimulus
  between : List (Nat × Stimulus)
  second : Nat × Stimulus
  after : List (Nat × Stimulus)
  split : es = before ++ [first] ++ between ++ [second] ++ after
  dials_first : Dials p first.1 (course p before).link first.2
  none_between : ¬ Since p (before ++ [first]) between (Dials p)
  dials_second : Dials p second.1 (course p (before ++ [first] ++ between)).link second.2

namespace Retry

variable (r : Retry p es)

/-- How the connection is found by the second attempt. -/
def link : Connection := (course p (r.before ++ [r.first] ++ r.between)).link

/-- What the connection does after it has dialed once and before it dials again. -/
def Does (sigs : List (Signal ι)) : Prop :=
  ∃ head u u', (course p (r.before ++ [r.first])).signals =
      (course p r.before).signals ++ head ++ [.dial u] ∧ dials head = [] ∧
    (course p (r.before ++ [r.first] ++ r.between ++ [r.second])).signals =
      (course p (r.before ++ [r.first])).signals ++ sigs ++ [.dial u'] ∧ dials sigs = []

end Retry

/-- **How two attempts follow each other.** -/
structure Paced (p : Plan ι) (es : List (Nat × Stimulus)) (r : Retry p es) : Prop where
  /-- There is a rest between them. -/
  rested : r.first.1 + p.policy.reconnectDelay.millis ≤ r.second.1
  /-- If silence ended the first, all the time of silence comes before that. -/
  waited : Stalled p (r.before ++ [r.first]) r.between →
    r.first.1 + p.policy.heartbeatTimeout.millis + p.policy.reconnectDelay.millis ≤ r.second.1
  /-- The handler is told once in between that the connection reconnects, unless
  somebody closes it. -/
  told : ∃ sigs, r.Does sigs ∧ (r.link.closed = false → reconnections (calls sigs) = 1)

/-- **No connection hammers**, whatever it is given, as long as the clock does not
go back. -/
theorem paced_course (p : Plan ι) {es : List (Nat × Stimulus)} (horder : InOrder es)
    (r : Retry p es) : Paced p es r := by
  obtain ⟨before, first, between, second, after, hes, hfirst, hnone, hsecond⟩ := r
  have hfront : InOrder (before ++ [first] ++ between) := by
    rw [hes, List.append_assoc] at horder
    exact (List.pairwise_append.1 horder).1
  have hwaits := waits_since hfront hfirst hnone
  obtain ⟨-, tail, u', hsteps, -, hrest⟩ := hsecond.cases
  -- the second attempt finds the connection at the end of its rest
  obtain ⟨rfl, time, hact, htime⟩ := hrest.resolve_left hwaits.started
  obtain ⟨hrested, hlate⟩ := hwaits.resting time hact
  refine ⟨Nat.le_trans hrested htime, fun hstalled => Nat.le_trans (hlate hstalled) htime, ?_⟩
  obtain ⟨hdialing, head, u, hbegan, hhead, -⟩ := hfirst.cases
  obtain ⟨sigs, hsigs, hdials, hrests⟩ := rest_course hnone
  refine ⟨sigs, ⟨head, u, u', ?_, hhead, ?_, hdials⟩, fun ho => ?_⟩
  · rw [signals_snoc, hbegan, List.append_assoc]
  · rw [signals_snoc, hsteps, hsigs, List.nil_append]
  · have hcount := hrests ho
    rw [link_snoc, hdialing, hact] at hcount
    exact (Nat.zero_add _).symm.trans hcount

/-- An attempt hangs. It is given up after fifteen seconds, and three seconds later
comes the next. -/
theorem paced_course_hanging :
    let p : Plan Unit :=
      ⟨.standard, fun _ => .ok ⟨[], [], [], none, none, .flat [], none, none⟩, fun _ => .ok (),
        fun _ _ => false⟩
    let es := [(0, .start), (15000, .alarm), (18000, .alarm)]
    InOrder es ∧ ∃ r : Retry p es, Paced p es r ∧ Stalled p (r.before ++ [r.first]) r.between ∧
      r.link.closed = false ∧ r.second.1 = 18000 := by
  intro p es
  have horder : InOrder es := by
    unfold InOrder
    decide
  have hquiet : ¬ Since p [(0, .start)] ([] ++ [(15000, .alarm)]) (Dials p) := by
    rw [since_snoc, not_or]
    refine ⟨not_since_nil, ?_⟩
    unfold Dials
    decide +kernel
  have hunanswered : ¬ Since p [(0, .start)] ([] ++ [(15000, .alarm)]) Answers := by
    rw [since_snoc, not_or]
    refine ⟨not_since_nil, ?_⟩
    rintro ⟨-, result, hs⟩
    cases hs
  let r : Retry p es :=
    { before := []
      first := (0, .start)
      between := [(15000, .alarm)]
      second := (18000, .alarm)
      after := []
      split := rfl
      dials_first := by unfold Dials; decide +kernel
      none_between := hquiet
      dials_second := by unfold Dials; decide +kernel }
  have ho : r.link.closed = false := by
    unfold Retry.link
    dsimp only [r]
    decide +kernel
  exact ⟨horder, r, paced_course p horder r, .inl hunanswered, ho, rfl⟩

end Connection

end Telemetry
