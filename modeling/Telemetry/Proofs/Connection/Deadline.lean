import Mathlib.Order.Bounds.Basic
import Telemetry.Proofs.Connection.Moment
/-!
# Connection — nothing is given up too early

A connection that listens gives its socket up when a deadline comes. The
deadline lies as long after the last sign of life of the socket as the socket
may be silent: after the socket opened, or after the last text or ping of it
that was handled (`LastHeard`). What sockets of other epochs send leaves it
where it is. And an attempt that is not answered is given up as long after it
was made. So whatever a connection gives up by itself was silent for all the
time it is allowed (`unhurried_course`), in every course along a clock that
does not go back, and so in every simulated run.
-/

namespace Telemetry

namespace Connection

variable {ι : Type} {p : Plan ι} {es : List (Nat × Stimulus)} {epoch deadline : Nat}

/-- **When a socket last gave a sign of life**: the later of the one time at
which its epoch opened and the last time at which a text or a ping of it was
handled. -/
def LastHeard (p : Plan ι) (es : List (Nat × Stimulus)) (epoch last : Nat) : Prop :=
  ∃ opened, Occurs p es (Opens p epoch) opened ∧
    (∀ u, Occurs p es (Opens p epoch) u → u = opened) ∧
    IsGreatest {u | u = opened ∨ Occurs p es (Hears epoch) u} last

/-- When a connection last dialed. -/
def LastDialed (p : Plan ι) (es : List (Nat × Stimulus)) (last : Nat) : Prop :=
  IsGreatest {u | Occurs p es (Dials p) u} last

/-! ## Signs of life -/

/-- No socket opens in an epoch to come. -/
theorem epoch_le_of_occurs {u : Nat} (h : Occurs p es (Opens p epoch) u) :
    (course p es).link.opened = true ∧ epoch ≤ (course p es).link.epoch := by
  induction es using List.reverseRecOn with
  | nil =>
    obtain ⟨before, s, after, hes, -⟩ := h
    simp at hes
  | append_singleton es e ih =>
    rw [link_snoc]
    rcases occurs_snoc.1 h with h | ⟨-, hopens⟩
    · obtain ⟨hopened, hle⟩ := ih h
      rcases epoch_step p e.1 (course p es).link e.2 with hnew | ⟨hepoch, hsame⟩
      · exact ⟨hnew.enters.1, Nat.le_of_lt (Nat.lt_of_le_of_lt hle (hnew.enters.2 hopened))⟩
      · rw [hepoch, hsame]
        exact ⟨hopened, hle⟩
    · exact ⟨hopens.enters.1, Nat.le_of_eq hopens.2.2.symm⟩

/-- A socket that opens has just given its first sign of life. -/
theorem lastHeard_of_opens {e : Nat × Stimulus} (horder : InOrder (es ++ [e]))
    (h : Opens p epoch e.1 (course p es).link e.2) : LastHeard p (es ++ [e]) epoch e.1 := by
  refine ⟨e.1, occurs_snoc.2 (.inr ⟨rfl, h⟩), fun u hu => ?_, .inl rfl, fun u hu => ?_⟩
  · rcases occurs_snoc.1 hu with hold | ⟨hu, -⟩
    · -- the epoch is a new one
      obtain ⟨hopened, hle⟩ := epoch_le_of_occurs hold
      exact absurd (h.enters.2 hopened) (Nat.not_lt.2 hle)
    · exact hu
  · rcases hu with hu | hu
    · exact Nat.le_of_eq hu
    · rcases occurs_snoc.1 hu with hold | ⟨hu, -⟩
      · exact hold.le horder
      · exact Nat.le_of_eq hu

/-- What is heard of a socket is its latest sign of life. -/
theorem LastHeard.hear {e : Nat × Stimulus} {last : Nat} (h : LastHeard p es epoch last)
    (horder : InOrder (es ++ [e])) (hnew : ¬ Opens p epoch e.1 (course p es).link e.2)
    (hhears : Hears epoch e.1 (course p es).link e.2) : LastHeard p (es ++ [e]) epoch e.1 := by
  obtain ⟨opened, hopened, hunique, -⟩ := h
  refine ⟨opened, occurs_snoc.2 (.inl hopened), fun u hu => ?_,
    .inr (occurs_snoc.2 (.inr ⟨rfl, hhears⟩)), fun u hu => ?_⟩
  · exact hunique u ((occurs_snoc.1 hu).resolve_right fun hu => hnew hu.2)
  · rcases hu with rfl | hu
    · exact hopened.le horder
    · rcases occurs_snoc.1 hu with hold | ⟨hu, -⟩
      · exact hold.le horder
      · exact Nat.le_of_eq hu

/-- Anything else is no sign of life. -/
theorem LastHeard.other {e : Nat × Stimulus} {last : Nat} (h : LastHeard p es epoch last)
    (hnew : ¬ Opens p epoch e.1 (course p es).link e.2)
    (hnone : ¬ Hears epoch e.1 (course p es).link e.2) : LastHeard p (es ++ [e]) epoch last := by
  have hopens : ∀ u, Occurs p (es ++ [e]) (Opens p epoch) u ↔ Occurs p es (Opens p epoch) u :=
    fun u => occurs_snoc.trans (or_iff_left fun hu => hnew hu.2)
  have hhears : ∀ u, Occurs p (es ++ [e]) (Hears epoch) u ↔ Occurs p es (Hears epoch) u :=
    fun u => occurs_snoc.trans (or_iff_left fun hu => hnone hu.2)
  simp only [LastHeard, hopens, hhears]
  exact h

/-! ## Deadlines -/

/-- **A connection that listens** waits from the last sign of life of its
socket. -/
theorem listening_course (horder : InOrder es)
    (hact : (course p es).link.activity = .listening deadline) :
    ∃ last, LastHeard p es (course p es).link.epoch last ∧
      deadline = last + p.policy.heartbeatTimeout.millis := by
  induction es using List.reverseRecOn generalizing deadline with
  | nil => cases hact
  | append_singleton es e ih =>
    rw [link_snoc] at hact ⊢
    by_cases hopens : Opens p (step p e.1 (course p es).link e.2).1.epoch e.1 (course p es).link e.2
    · exact ⟨e.1, lastHeard_of_opens horder hopens,
        Activity.listening.inj (hact.symm.trans hopens.activity)⟩
    have hbefore : InOrder es := (inOrder_snoc.1 horder).1
    by_cases hhears : Hears (step p e.1 (course p es).link e.2).1.epoch e.1 (course p es).link e.2
    · obtain ⟨⟨deadline₀, hlistens⟩, hepoch, -⟩ := id hhears
      obtain ⟨last, hlast, -⟩ := ih hbefore hlistens
      rw [hepoch] at hlast
      exact ⟨e.1, hlast.hear horder hopens hhears,
        Activity.listening.inj (hact.symm.trans (hhears.activity p).1)⟩
    · obtain ⟨hlistens, hepoch⟩ :=
        ((listening_step hact rfl).resolve_left hopens).resolve_left hhears
      obtain ⟨last, hlast, hdeadline⟩ := ih hbefore hlistens
      rw [hepoch] at hlast
      exact ⟨last, hlast.other hopens hhears, hdeadline⟩

/-- **A connection that waits for an answer** waits from its last attempt. -/
theorem dialing_course (horder : InOrder es)
    (hact : (course p es).link.activity = .dialing deadline) :
    ∃ last, LastDialed p es last ∧ deadline = last + p.policy.heartbeatTimeout.millis := by
  induction es using List.reverseRecOn generalizing deadline with
  | nil => cases hact
  | append_singleton es e ih =>
    rw [link_snoc] at hact
    by_cases hdials : Dials p e.1 (course p es).link e.2
    · refine ⟨e.1, ⟨occurs_snoc.2 (.inr ⟨rfl, hdials⟩), fun u hu => ?_⟩,
        Activity.dialing.inj (hact.symm.trans hdials.cases.1)⟩
      rcases occurs_snoc.1 hu with hold | ⟨hu, -⟩
      · exact hold.le horder
      · exact Nat.le_of_eq hu
    · have hwaits := (dialing_step hact).resolve_left hdials
      obtain ⟨last, hlast, hdeadline⟩ := ih (inOrder_snoc.1 horder).1 hwaits
      have hsame : ∀ u, Occurs p (es ++ [e]) (Dials p) u ↔ Occurs p es (Dials p) u :=
        fun u => occurs_snoc.trans (or_iff_left fun hu => hdials hu.2)
      refine ⟨last, ?_, hdeadline⟩
      simp only [LastDialed, hsame]
      exact hlast

/-! ## Giving up -/

/-- What comes of another epoch is ignored, whatever the connection does. -/
theorem step_of_superseded {c : Connection} (h : epoch ≠ c.epoch) (now : Nat) :
    (∀ f, step p now c (.frame epoch f) = (c, [])) ∧
      ∀ f, step p now c (.lost epoch f) = (c, []) := by
  constructor <;> intro f <;> unfold step Turn.take <;> cases hact : c.activity <;>
    simp [Turn.of, hact, h]

/-- **How a connection gives up by itself** what it waits for: never before it
was silent as long as it may be. -/
structure Unhurried (p : Plan ι) (es : List (Nat × Stimulus)) (c : Connection) : Prop where
  /-- While a socket is open, the connection listens to it. -/
  live : c.state = .live → ∃ deadline, c.activity = .listening deadline
  /-- Its deadline lies as long after the last sign of life of the socket as the
  socket may be silent. -/
  listening : ∀ deadline, c.activity = .listening deadline →
    ∃ last, LastHeard p es c.epoch last ∧ deadline = last + p.policy.heartbeatTimeout.millis
  /-- The frames of other sockets change nothing, nor does their loss. -/
  superseded : ∀ now epoch, epoch ≠ c.epoch →
    (∀ f, step p now c (.frame epoch f) = (c, [])) ∧ ∀ f, step p now c (.lost epoch f) = (c, [])
  /-- A socket that is given up has been silent for as long. -/
  stale : ∀ now s, Lapses p now c s → (∃ deadline, c.activity = .listening deadline) →
    ∃ last, LastHeard p es c.epoch last ∧ last + p.policy.heartbeatTimeout.millis ≤ now
  /-- An attempt that is given up has been made as long ago. -/
  pending : ∀ now s, Lapses p now c s → (∃ deadline, c.activity = .dialing deadline) →
    ∃ last, LastDialed p es last ∧ last + p.policy.heartbeatTimeout.millis ≤ now
  /-- Whatever else ends a wait comes from the socket or the attempt, or from
  whoever closed the connection. -/
  ended : ∀ now s, c.activity.awaits = true → (step p now c s).1.activity.awaits = false →
    Lapses p now c s ∨ (∃ f, s = .dialed (.error f) ∨ s = .lost c.epoch f) ∨
      s = .frame c.epoch .close ∨ s = .leave ∧ c.closed = true
  /-- The handler is told of silence only where the connection gives up by
  itself, or where silence is what was reported to it. -/
  told : ∀ now s window, .terminal (.silence window) ∈ calls (step p now c s).2 →
    Lapses p now c s ∨ s = .dialed (.error (.silence window)) ∨
      s = .lost c.epoch (.silence window) ∨ ∃ n, p.address n = .error (.silence window)

/-- **No connection gives up too early**, whatever it is given, as long as the
clock does not go back. -/
theorem unhurried_course (p : Plan ι) {es : List (Nat × Stimulus)} (horder : InOrder es) :
    Unhurried p es (course p es).link where
  live hlive := by
    obtain ⟨hseated, -⟩ := listens_of_live hlive
    cases hact : (course p es).link.activity with
    | listening deadline => exact ⟨deadline, rfl⟩
    | _ =>
      rw [hact] at hseated
      cases hseated
  listening _ hact := listening_course horder hact
  superseded now _ h := step_of_superseded h now
  stale now s hlapses := by
    rintro ⟨deadline, hact⟩
    obtain ⟨deadline', hdue, hact' | hact'⟩ := hlapses.due
    · cases hact.symm.trans hact'
    · obtain ⟨last, hlast, rfl⟩ := listening_course horder hact'
      exact ⟨last, hlast, hdue⟩
  pending now s hlapses := by
    rintro ⟨deadline, hact⟩
    obtain ⟨deadline', hdue, hact' | hact'⟩ := hlapses.due
    · obtain ⟨last, hlast, rfl⟩ := dialing_course horder hact'
      exact ⟨last, hlast, hdue⟩
    · cases hact.symm.trans hact'
  ended now s hawaits hover := by
    rcases awaits_step hawaits hover with ⟨f, hl⟩ | hleave
    · cases hl with
      | lapsed deadline hact hdue => exact .inl ⟨rfl, hawaits, hover⟩
      | refused deadline f hact => exact .inr (.inl ⟨f, .inl rfl⟩)
      | reported deadline f hact => exact .inr (.inl ⟨f, .inr rfl⟩)
      | ended deadline hact => exact .inr (.inr (.inl rfl))
    · exact .inr (.inr (.inr hleave))
  told now s window hmem := by
    rcases terminal_step hmem with hl | haddress
    · cases hl with
      | lapsed deadline hact hdue => exact .inl (lapses_iff.2 ⟨rfl, .lapsed deadline hact hdue⟩)
      | refused deadline f hact => exact .inr (.inl rfl)
      | reported deadline f hact => exact .inr (.inr (.inl rfl))
    · exact .inr (.inr (.inr haddress))

/-- A socket is lost and another opens at five seconds. It sends a ping a second
later; what the lost one still sends after that does not put the deadline
off. -/
theorem unhurried_course_superseded :
    let p : Plan Unit :=
      ⟨.standard, fun _ => .ok ⟨[], [], [], none, none, .flat [], none, none⟩, fun _ => .ok (),
        fun _ _ => false⟩
    let es := [(0, .start), (0, .dialed (.ok ())), (1000, .frame 0 .ping),
      (2000, .lost 0 (.transport "reset")), (5000, .alarm), (5000, .dialed (.ok ())),
      (6000, .frame 1 .ping), (7000, .frame 0 .ping)]
    InOrder es ∧ Unhurried p es (course p es).link ∧ (course p es).link.state = .live ∧
      (course p es).link.activity = .listening 21000 := by
  intro p es
  have horder : InOrder es := by
    unfold InOrder
    decide
  exact ⟨horder, unhurried_course p horder, by decide +kernel, by decide +kernel⟩

end Connection

end Telemetry
