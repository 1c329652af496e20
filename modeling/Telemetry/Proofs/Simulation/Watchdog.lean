import Telemetry.Proofs.Connection.Orderly
import Telemetry.Proofs.Simulation.Recorder
/-!
# Simulation — how long a silent socket is kept

A connection that listens has a deadline, and gives the socket up when the
deadline comes. Every sign of life of the socket puts it off, for as long as the
policy allows a socket to be silent. So a connection that is still open, and has
nothing left to do before some time, had a sign of life not long before that
time (`watched_run`). This holds of every run on record, and so of every
simulated one (`kept_of_reached`).

Not every sign of life is heard by the handler. The deadline is put off by every
frame before it is read, so a text that does not read keeps the socket open
while nothing is told of it (`Garbled`). A socket that sends such texts often
enough is kept for ever, whatever else it fails to send.
-/

namespace Telemetry

namespace Simulation

open Connection

namespace Recorder

variable {ι : Type} {p : Plan ι} {es : List (Nat × Stimulus)} {r : Recorder ι} {now : Nat}

/-! ## Signs of life -/

/-- **A text came garbled** in an epoch at a time: the connection listened in
that epoch and could not read it. -/
def Garbled (p : Plan ι) (es : List (Nat × Stimulus)) (epoch u : Nat) : Prop :=
  ∃ before s after, es = before ++ (u, .frame epoch (.text s)) :: after ∧
    p.image (.text s) = none ∧ (run p before).link.epoch = epoch ∧
    (run p before).link.activity.phase = .seated

/-- **A socket gave a sign of life** at a time: it opened, brought news, or a
text that did not read. -/
def Sign (p : Plan ι) (es : List (Nat × Stimulus)) (epoch opened : Nat)
    (news : List (Nat × Callback ι)) (u : Nat) : Prop :=
  u = opened ∨ (∃ x ∈ news, x.1 = u) ∨ Garbled p es epoch u

theorem Garbled.snoc {epoch u : Nat} (h : Garbled p es epoch u) (e : Nat × Stimulus) :
    Garbled p (es ++ [e]) epoch u := by
  obtain ⟨before, s, after, rfl, hread⟩ := h
  exact ⟨before, s, after ++ [e], by simp, hread⟩

theorem Sign.snoc {epoch opened u : Nat} {news : List (Nat × Callback ι)}
    (h : Sign p es epoch opened news u) (e : Nat × Stimulus) :
    Sign p (es ++ [e]) epoch opened news u :=
  h.imp_right (Or.imp_right fun hgarbled => hgarbled.snoc e)

/-- **What has been told of a socket since it opened**, and when. -/
structure Sits (r : Recorder ι) (opened : Nat) (news : List (Nat × Callback ι)) : Prop where
  record : ∃ before, r.record = before ++ (opened, .state .live r.link.epoch) :: news
  isNews : ∀ x ∈ news, x.2.isNews = true

/-- **The watchdog is armed**: the deadline of the connection was set at a sign
of life of its socket. -/
def Armed (p : Plan ι) (es : List (Nat × Stimulus)) (r : Recorder ι) : Prop :=
  ∃ opened news u, r.Sits opened news ∧ Sign p es r.link.epoch opened news u ∧
    r.link.activity = .listening (u + p.policy.heartbeatTimeout.millis)

/-! ## Setting the deadline -/

/-- A turn comes into the record. -/
def note (r : Recorder ι) (now : Nat) (t : Turn ι) : Recorder ι :=
  ⟨t.link, r.record ++ t.told.map (now, ·)⟩

theorem poke_eq_note (r : Recorder ι) (now : Nat) (s : Stimulus) :
    (r.poke p now s).1 = r.note now ((Turn.of r.link).take p now s) := rfl

/-- A turn in the same epoch that brings nothing but news adds to the news. -/
theorem Sits.note {opened : Nat} {news : List (Nat × Callback ι)} (h : r.Sits opened news)
    {t : Turn ι} (hepoch : t.link.epoch = r.link.epoch) (hnews : ∀ c ∈ t.told, c.isNews = true) :
    (r.note now t).Sits opened (news ++ t.told.map (now, ·)) := by
  obtain ⟨before, hrecord⟩ := h.record
  constructor
  · refine ⟨before, ?_⟩
    simp [Recorder.note, hrecord, hepoch]
  · intro x hx
    rcases List.mem_append.1 hx with hx | hx
    · exact h.isNews x hx
    · obtain ⟨c, hc, rfl⟩ := List.mem_map.1 hx
      exact hnews c hc

/-- **A socket that opens** arms the watchdog. -/
theorem armed_greet (r : Recorder ι) (now : Nat)
    (hopen : (Turn.greet p now (.of r.link)).link.closed = false) :
    Armed p es (r.note now (Turn.greet p now (.of r.link))) := by
  have hleads : Turn.Leads p (.of r.link) (Turn.greet p now (.of r.link)) := Turn.leads_greet
  have hbefore : r.link.closed = false := hleads.open_before hopen
  have htold : (Turn.greet p now (.of r.link)).told =
      [.state .live (Turn.advance (ι := ι) (.of r.link)).link.epoch] := Turn.told_greet hbefore
  refine ⟨now, [], now, ⟨⟨r.record, ?_⟩, by simp⟩, .inl rfl, rfl⟩
  simp only [note, htold, Turn.epoch_greet, List.map_singleton]

/-- **A frame that is heard** arms it anew, whether it reads or not. -/
theorem Armed.hear {f : Frame} (h : Armed p es (run p es)) (hf : f ≠ .close)
    (hseated : (run p es).link.activity.phase = .seated)
    (hopen : (run p es).link.closed = false) :
    Armed p (es ++ [(now, .frame (run p es).link.epoch f)])
      ((run p es).note now (Turn.hear p now (.of (run p es).link) (run p es).link.epoch f)) := by
  obtain ⟨opened, news, u, hsits, -, -⟩ := h
  have htold : (Turn.hear p now (.of (run p es).link) (run p es).link.epoch f).told =
      (p.image f).toList := Turn.told_hear (t := .of (run p es).link) hf hopen
  have hepoch : (Turn.hear p now (.of (run p es).link) (run p es).link.epoch f).link.epoch =
      (run p es).link.epoch := Turn.epoch_hear hf
  refine ⟨opened, _, now, hsits.note hepoch fun c hc => ?_, ?_, Turn.activity_hear hf⟩
  · rw [htold] at hc
    exact isNews_of_image (Option.mem_toList.1 hc)
  · rw [htold]
    cases himage : p.image f with
    | some c => exact .inr (.inl ⟨(now, c), by simp, rfl⟩)
    | none =>
      -- only a text can mean nothing to the handler
      obtain ⟨text, rfl⟩ : ∃ text, f = .text text := by
        cases f with
        | text text => exact ⟨text, rfl⟩
        | ping => cases himage
        | close => exact absurd rfl hf
      refine .inr (.inr ⟨es, text, [], ?_, himage, hepoch.symm, hseated⟩)
      simp only [note, hepoch]

/-- **The watchdog is armed as long as the connection listens**, whatever it is
given and whenever. -/
theorem armed_run (p : Plan ι) (es : List (Nat × Stimulus))
    (hseated : (run p es).link.activity.phase = .seated)
    (hopen : (run p es).link.closed = false) : Armed p es (run p es) := by
  induction es using List.reverseRecOn with
  | nil => cases hseated
  | append_singleton es e ih =>
    obtain ⟨now, s⟩ := e
    rw [run_snoc, poke_eq_note] at hseated hopen ⊢
    have htook := Turn.took_take p now (.of (run p es).link) s
    generalize (Turn.of (run p es).link).take p now s = t' at htook hseated hopen ⊢
    cases htook with
    | ignored =>
      obtain ⟨opened, news, u, hsits, hsign, hactivity⟩ := ih hseated hopen
      have hsame : (run p es).note now (.of (run p es).link) = run p es := by
        simp [note, Turn.of, Turn.told, calls]
      rw [hsame]
      exact ⟨opened, news, u, hsits, hsign.snoc (now, s), hactivity⟩
    | started h => cases (Turn.phase_attempt (p := p)).symm.trans hseated
    | opened deadline h hs => exact armed_greet (run p es) now hopen
    | lost f h => cases (Turn.phase_lose (p := p) f).symm.trans hseated
    | heard deadline f h hf hs =>
      have hlistens : (run p es).link.activity.phase = .seated := congrArg Activity.phase h
      have hbefore : (run p es).link.closed = false := (Turn.leads_hear hf).open_before hopen
      rw [hs]
      exact (ih hlistens hbefore).hear hf hlistens hbefore
    | retried time h htime => cases (Turn.phase_attempt (p := p)).symm.trans hseated
    | closed hs => cases (closed_shut _).symm.trans hopen
    | left h => cases hseated

/-! ## Keeping it -/

/-- **How a connection watches its socket.** -/
structure Watched (p : Plan ι) (es : List (Nat × Stimulus)) (r : Recorder ι) : Prop where
  /-- While it is open, its deadline is as long after a sign of life as the
  socket may be silent. -/
  armed : r.link.state = .live → Armed p es r
  /-- So if it is open and has nothing left to do before some time, there was a
  sign of life not as long before that time. -/
  recent : ∀ t, r.link.state = .live → r.link.settled t = true →
    ∃ opened news u, r.Sits opened news ∧ Sign p es r.link.epoch opened news u ∧
      t < u + p.policy.heartbeatTimeout.millis
  /-- Unless a text came garbled, the handler has heard of it: the socket opened
  then, or brought data or a heartbeat. -/
  heard : (∀ u, ¬ Garbled p es r.link.epoch u) →
    ∀ t, r.link.state = .live → r.link.settled t = true →
      ∃ opened news, r.Sits opened news ∧ (t < opened + p.policy.heartbeatTimeout.millis ∨
        ∃ x ∈ news, t < x.1 + p.policy.heartbeatTimeout.millis)

/-- A connection that has settled has a deadline to come. -/
theorem Armed.recent (h : Armed p es r) {t : Nat} (hsettled : r.link.settled t = true) :
    ∃ opened news u, r.Sits opened news ∧ Sign p es r.link.epoch opened news u ∧
      t < u + p.policy.heartbeatTimeout.millis := by
  obtain ⟨opened, news, u, hsits, hsign, hactivity⟩ := h
  refine ⟨opened, news, u, hsits, hsign, ?_⟩
  simp only [settled, hactivity, Activity.alarm?, Option.any_some, Bool.and_eq_true,
    Bool.not_eq_true', decide_eq_false_iff_not] at hsettled
  omega

/-- **Every connection watches its socket**, whatever it is given and
whenever. -/
theorem watched_run (p : Plan ι) (es : List (Nat × Stimulus)) : Watched p es (run p es) := by
  have harmed : (run p es).link.state = .live → Armed p es (run p es) := by
    intro hlive
    rw [(course_of_run p es).1] at hlive
    obtain ⟨hseated, hopen⟩ := listens_of_live hlive
    rw [← (course_of_run p es).1] at hseated hopen
    exact armed_run p es hseated hopen
  refine ⟨harmed, fun t hlive hsettled => (harmed hlive).recent hsettled, ?_⟩
  intro hread t hlive hsettled
  obtain ⟨opened, news, u, hsits, hsign, hlt⟩ := (harmed hlive).recent hsettled
  refine ⟨opened, news, hsits, ?_⟩
  rcases hsign with rfl | ⟨x, hx, rfl⟩ | hgarbled
  · exact .inl hlt
  · exact .inr ⟨x, hx, hlt⟩
  · exact absurd hgarbled (hread u)

/-- A socket opens and sends nothing but one text that does not read. Twenty
seconds later it is still kept, though fifteen seconds of silence are all that
it is allowed. -/
theorem silent_and_kept :
    let p : Plan Unit :=
      ⟨.standard, fun _ => .ok ⟨[], [], [], none, none, .flat [], none, none⟩, fun _ => .ok (),
        fun _ _ => false⟩
    let r := run p [(0, .start), (0, .dialed (.ok ())), (14000, .frame 0 (.text "not json"))]
    p.policy.heartbeatTimeout.millis = 15000 ∧ r.link.state = .live ∧
      r.link.settled 20000 = true ∧
      r.record.map Prod.fst = [0, 0] ∧ (∀ x ∈ r.record, x.2.isNews = false) := by
  decide +kernel

end Recorder

end Simulation

end Telemetry
