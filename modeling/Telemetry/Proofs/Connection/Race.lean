import Telemetry.Proofs.Connection.Piece
/-!
# Connection — races come to courses

Whoever closes a connection in the middle of a step may as well have done so
from inside the callback before, or before the step began. So whenever the
task is through with a step and nobody is closing the connection, the
connection is where some course would have taken it (`turn_race`). An open
connection carries that along: it is on its course, and on that of any
handler that would only have closed it later (`Race.Follows`).

What is left is a call that is still to return. Until it does, the state may
be another, and one callback may begin that had been allowed before
(`told_race`); after that, none ever does (`shut_race`).
-/

namespace Telemetry

namespace Connection

variable {ι : Type} {p : Plan ι} {now : Nat} {t : Turn ι} {r : Race ι}

/-! ## Closing in between -/

/-- The same plan with a handler that closes the connection from inside other
callbacks. -/
def Plan.closingOn (p : Plan ι) (f : Nat → Callback ι → Bool) : Plan ι := { p with closesOn := f }

/-- The same plan with a handler that closes the connection from inside a certain
callback as well. -/
def Plan.closingAt (p : Plan ι) (n : Nat) : Plan ι :=
  p.closingOn fun m c => p.closesOn m c || m == n

theorem tasks_closingOn (p : Plan ι) (f : Nat → Callback ι → Bool) (now : Nat) (c : Connection)
    (s : Stimulus) : tasks (p.closingOn f) now c s = tasks p now c s := rfl

namespace Race

theorem called_go (p : Plan ι) (r : Race ι) :
    r.turn.link.called ≤ (r.go p).turn.link.called ∧
      ∀ c, r.next = some (.call c) → (r.go p).turn.link.called = r.turn.link.called + 1 := by
  have h := went_go p r
  generalize r.go p = r' at h
  cases h with
  | works x rest hhold htodo hx =>
    refine ⟨?_, fun c hc => by simp [next, hhold] at hc⟩
    cases x with
    | gated acts => exact absurd rfl (hx acts)
    | count | advance | proceed a | dial u => exact Nat.le_refl _
  | calls c acts hhold => exact ⟨Nat.le_succ _, fun _ _ => rfl⟩
  | stays hhold | takes _ _ hhold | releases hhold | refused _ _ hhold | enters _ _ _ hhold
  | allowed _ _ hhold | marks _ hhold | writes _ _ _ hhold | raises _ hhold | raised _ hhold
  | concludes _ hhold => exact ⟨Nat.le_refl _, fun c hc => by simp [next, hhold] at hc⟩

/-- Only when a callback has run does it matter whether the handler closes the
connection. -/
theorem go_closingOn {f : Nat → Callback ι → Bool}
    (h : ∀ c, r.next = some (.call c) →
      f r.turn.link.called c = p.closesOn r.turn.link.called c) :
    r.go (p.closingOn f) = r.go p := by
  obtain ⟨t, todo, hold, waiting, taken⟩ := r
  rcases hold with _ | ⟨_ | x, acts⟩
  · cases todo <;> rfl
  · cases acts <;> rfl
  · cases x with
    | call c =>
      have hf : (p.closingOn f).closesOn t.link.called c = p.closesOn t.link.called c := h c rfl
      simp only [go, resolve, hf]
    | write s epoch => rfl
    | raise => rfl
    | conclude => rfl

/-- **An open connection is on its course**, and on that of any handler that
would only have closed it later. -/
def Follows (p : Plan ι) (r : Race ι) : Prop :=
  ∀ f, (∀ m < r.turn.link.called, ∀ c, f m c = p.closesOn m c) →
    r.finish (p.closingOn f) = course (p.closingOn f) r.taken

theorem Follows.finish_eq (h : r.Follows p) : r.finish p = course p r.taken :=
  h p.closesOn fun _ _ _ => rfl

theorem Follows.go (h : r.Follows p) : (r.go p).Follows p := by
  intro f hf
  obtain ⟨hle, hcall⟩ := called_go p r
  have hgo : r.go (p.closingOn f) = r.go p :=
    go_closingOn fun c hc => hf _ (by rw [hcall c hc]; exact Nat.lt_succ_self _) c
  rw [← hgo, finish_go, taken_go]
  exact h f fun m hm => hf m (Nat.lt_of_lt_of_le hm hle)

theorem Follows.take (h : r.Follows p) (hidle : r.idle = true) (now : Nat) {s : Stimulus}
    (hs : s ≠ .close) :
    Follows p { r with todo := tasks p now r.turn.link s, taken := r.taken ++ [(now, s)] } := by
  intro f hf
  obtain ⟨-, hhold⟩ := idle_iff.1 hidle
  have hturn : r.turn = course (p.closingOn f) r.taken := by
    rw [← h f hf, finish_of_idle hidle]
  rw [course_snoc, ← hturn, ← run_tasks (p.closingOn f) now r.turn hs, tasks_closingOn]
  simp only [finish, hhold, Option.elim_none]

/-- Whoever gives up has shown so before: its course says that it does. -/
theorem Follows.state_of_marks (h : r.Follows p) {acts : List (Act ι)}
    (hhold : r.hold = some ⟨none, .mark :: acts⟩) : r.turn.link.state = .closed := by
  have hraised : acts.foldl (Act.run p) r.turn.raise = r.turn.raise := foldl_acts_of_closed rfl acts
  have hcourse := h.finish_eq
  simp only [finish, hhold, Option.elim_some, Hold.run, Option.elim_none, List.foldl_cons] at hcourse
  change r.todo.foldl (Task.run p) (acts.foldl (Act.run p) r.turn.raise) = _ at hcourse
  rw [hraised] at hcourse
  obtain ⟨hclosed, hstate⟩ := shown_run (p := p) (t := r.turn.raise) rfl r.todo
  rw [hcourse] at hclosed hstate
  exact hstate.symm.trans (state_course hclosed)

/-- The race in which someone raises the flag now. -/
def raise (r : Race ι) : Race ι := { r with turn := r.turn.raise }

/-- What has been resolved on, done. -/
def resolved (p : Plan ι) (r : Race ι) : Turn ι := r.next.elim r.turn (Resolve.run p r.turn)

theorem closed_resolved (p : Plan ι) (r : Race ι) : (r.raise.resolved p).link.closed = true := by
  unfold resolved
  change (r.next.elim r.turn.raise (Resolve.run p r.turn.raise)).link.closed = true
  cases r.next with
  | none => rfl
  | some x =>
    cases x with
    | write s epoch =>
      simp only [Option.elim_some, Resolve.run]
      rw [Turn.deliver_of_closed rfl]
      rfl
    | call c => exact (Turn.closed_tell ..).trans (Bool.true_or _)
    | raise => exact closed_shut _
    | conclude => rfl

/-- **What becomes of a step when the flag is raised in between**: what has been
resolved on is done, and nothing else under the gate. -/
theorem conclude_finish_raise (p q : Plan ι) (r : Race ι) :
    (r.raise.finish p).conclude = r.todo.foldl (Task.run q) (r.raise.resolved p).conclude := by
  have hheld : r.raise.hold.elim r.raise.turn (Hold.run p r.raise.turn) = r.raise.resolved p := by
    have hclosed := closed_resolved p r
    unfold resolved next at hclosed ⊢
    change r.hold.elim r.turn.raise _ = (r.hold.bind Hold.next).elim r.turn.raise _
    cases hhold : r.hold with
    | none => rfl
    | some hold =>
      simp only [raise, hhold, Option.bind_some] at hclosed
      exact foldl_acts_of_closed hclosed hold.acts
  rw [finish, hheld]
  exact conclude_run (closed_resolved p r) r.todo

/-- The next piece changes nothing about that, unless it allows a callback. -/
theorem conclude_finish_raise_go (p : Plan ι) (r : Race ι) :
    ((r.go p).raise.finish p).conclude = (r.raise.finish p).conclude ∨
      ∃ c, r.turn.link.closed = false ∧ (r.go p).next = some (.call c) ∧
        (r.go p).turn = r.turn := by
  rw [conclude_finish_raise p p, conclude_finish_raise p p]
  have h := went_go p r
  generalize r.go p = r' at h
  cases h with
  | stays => exact .inl rfl
  | works x rest hhold htodo hx =>
    refine .inl ?_
    simp only [htodo, resolved, next, raise, hhold, Option.bind_none, Option.elim_none,
      List.foldl_cons]
    cases x with
    | gated acts => exact absurd rfl (hx acts)
    | count | advance | proceed a | dial u => rfl
  | takes acts rest hhold htodo =>
    refine .inl ?_
    simp only [htodo, resolved, next, raise, hhold, Option.bind_none, Option.bind_some,
      Option.elim_none, List.foldl_cons, Task.run]
    rw [foldl_acts_of_closed rfl]
  | releases hhold | refused a acts hhold =>
    refine .inl ?_
    simp only [resolved, next, raise, hhold, Option.bind_none, Option.bind_some, Option.elim_none]
  | marks acts hhold =>
    refine .inl ?_
    simp only [resolved, next, raise, hhold, Option.bind_some, Option.elim_none]
    rfl
  | enters s epoch acts hhold | writes s epoch acts hhold =>
    refine .inl ?_
    simp only [resolved, next, raise, hhold, Option.bind_some, Option.elim_none, Option.elim_some,
      Resolve.run]
    rw [Turn.deliver_of_closed rfl]
    rfl
  | allowed c acts hhold ho => exact .inr ⟨c, ho, rfl, rfl⟩
  | calls c acts hhold =>
    refine .inl ?_
    simp only [resolved, next, raise, hhold, Option.bind_some, Option.elim_some, Resolve.run,
      Turn.tell, Turn.raise, Connection.raise]
    split
    · simp only [Option.elim_some, Resolve.run, shut_of_closed]
    · rfl
  | raises acts hhold =>
    refine .inl ?_
    simp only [resolved, next, raise, hhold, Option.bind_some, Option.elim_some, Resolve.run]
    rw [shut_of_closed rfl]
    rfl
  | raised acts hhold =>
    refine .inl ?_
    simp only [resolved, next, raise, hhold, Option.bind_some, Option.elim_none, Option.elim_some,
      Resolve.run]
    rw [shut_of_closed rfl]
  | concludes acts hhold =>
    refine .inl ?_
    simp only [resolved, next, raise, hhold, Option.bind_some, Option.elim_none, Option.elim_some]
    rfl

/-- A callback that has been allowed comes even so, as if it were the one to
close the connection. -/
theorem conclude_finish_raise_call {c : Callback ι} (ho : r.turn.link.closed = false)
    (hnext : r.next = some (.call c)) :
    (r.raise.finish p).conclude = r.finish (p.closingAt r.turn.link.called) := by
  let q := p.closingAt r.turn.link.called
  have hcloses : q.closesOn r.turn.link.called c = true := by
    simp [q, Plan.closingAt, Plan.closingOn]
  have hraised : (r.raise.resolved p).conclude = r.turn.tell q c := by
    unfold resolved
    change (r.next.elim r.turn.raise (Resolve.run p r.turn.raise)).conclude = _
    have hshut : Connection.shut { r.turn.link with called := r.turn.link.called + 1 } =
        Connection.conclude (Connection.raise
          { r.turn.link with called := r.turn.link.called + 1 }) := shut_of_open ho
    simp only [hnext, Option.elim_some, Resolve.run, Turn.tell, hcloses, if_true, hshut]
    rw [shut_of_closed rfl, ite_self]
    rfl
  have hclosed : (r.turn.tell q c).link.closed = true := by
    rw [Turn.closed_tell, hcloses, Bool.or_true]
  rw [conclude_finish_raise p q, hraised]
  -- under the gate nothing else is done, closed as the connection is
  cases hhold : r.hold with
  | none => simp [next, hhold] at hnext
  | some hold =>
    obtain ⟨x, acts⟩ := hold
    simp only [next, hhold, Option.bind_some] at hnext
    subst hnext
    simp only [finish, hhold, Option.elim_some, Hold.run, Resolve.run]
    rw [foldl_acts_of_closed hclosed]

end Race

/-! ## Races come to courses -/

/-- **Closing put in its place**: the turn is where a course leads that takes the
same stimuli, with calls to close put between them, or with one from inside a
callback. -/
def Serial (p : Plan ι) (taken : List (Nat × Stimulus)) (t : Turn ι) : Prop :=
  ∃ q es, (q = p ∨ ∃ n, q = p.closingAt n) ∧ (es.filter fun e => !e.2 matches .close) = taken ∧
    t = course q es

theorem Serial.filter_taken {taken : List (Nat × Stimulus)} (h : Serial p taken t) :
    (taken.filter fun e => !e.2 matches .close) = taken := by
  obtain ⟨q, es, -, rfl, -⟩ := h
  simp only [List.filter_filter, Bool.and_self]

/-- The task sets about the same with the flag raised, unless it is to find that
out. -/
theorem tasks_conclude_raise (p : Plan ι) (now : Nat) (c : Connection) {s : Stimulus}
    (hs : s = .leave → c.closed = true) :
    tasks p now c.raise.conclude s = tasks p now c s := by
  obtain ⟨state, epoch, closed, opened, attempts, called, activity⟩ := c
  cases s with
  | leave =>
    cases hs rfl
    rfl
  | dialed result => cases activity <;> cases result <;> rfl
  | start | frame epoch f | lost epoch f | alarm | close => cases activity <;> rfl

namespace Race

theorem raise_of_closed (h : r.turn.link.closed = true) : r.raise = r := by
  rw [raise, Turn.raise_of_closed h]

/-- A step that begins with the flag raised. -/
theorem conclude_finish_raise_take (hidle : r.idle = true) (q : Plan ι) (now : Nat)
    (s : Stimulus) :
    (Race.finish p (Race.raise
      { r with todo := tasks p now r.turn.link s, taken := r.taken ++ [(now, s)] })).conclude =
      (tasks p now r.turn.link s).foldl (Task.run q) r.turn.raise.conclude := by
  obtain ⟨-, hhold⟩ := idle_iff.1 hidle
  rw [conclude_finish_raise p q]
  simp only [resolved, next, raise, hhold, Option.bind_none, Option.elim_none]

section serial

variable (h : Serial p r.taken (r.raise.finish p).conclude)

include h

theorem serial_go (hf : r.turn.link.closed = false → r.Follows p) :
    Serial p (r.go p).taken ((r.go p).raise.finish p).conclude := by
  rw [taken_go]
  obtain hsame | ⟨c, ho, hnext, hturn⟩ := conclude_finish_raise_go p r
  · rwa [hsame]
  · have hfollows : (r.go p).Follows p := (hf ho).go
    have ho' : (r.go p).turn.link.closed = false := by rwa [hturn]
    refine ⟨_, r.taken, .inr ⟨(r.go p).turn.link.called, rfl⟩, h.filter_taken, ?_⟩
    rw [conclude_finish_raise_call ho' hnext, ← taken_go p r]
    refine hfollows _ fun m hm c => ?_
    have hne : (m == (r.go p).turn.link.called) = false := beq_false_of_ne (Nat.ne_of_lt hm)
    rw [hne, Bool.or_false]

/-- An open connection does not leave: it might as well have been closed after that. -/
theorem serial_take_leave (hf : r.Follows p) (ho : r.turn.link.closed = false)
    (hidle : r.idle = true) (now : Nat) :
    Serial p (r.taken ++ [(now, .leave)]) r.turn.raise.conclude := by
  have hnothing : tasks p now r.turn.link .leave = [] := by simp [tasks, ho]
  have hleave : r.turn.take p now .leave = r.turn := by
    rw [← run_tasks p now r.turn (s := .leave) nofun, hnothing, List.foldl_nil]
  refine ⟨p, r.taken ++ [(now, .leave)] ++ [(now, .close)], .inl rfl, ?_, ?_⟩
  · rw [List.filter_append, List.filter_append, h.filter_taken]
    simp
  · rw [course_snoc, take_close, course_snoc, ← hf.finish_eq, finish_of_idle hidle, hleave,
      shut_of_open ho]
    rfl

theorem serial_take (hf : r.turn.link.closed = false → r.Follows p) (hidle : r.idle = true)
    (now : Nat) {s : Stimulus} (hs : s ≠ .close) :
    Serial p (r.taken ++ [(now, s)]) (Race.finish p (Race.raise
      { r with todo := tasks p now r.turn.link s, taken := r.taken ++ [(now, s)] })).conclude := by
  by_cases hleave : s = .leave → r.turn.link.closed = true
  · obtain ⟨q, es, hq, htaken, heq⟩ := h
    have hbefore : r.turn.raise.conclude = course q es := by
      rw [← heq, finish_of_idle (r := r.raise) hidle]
      rfl
    have hsame : tasks p now r.turn.link s = tasks q now (course q es).link s := by
      rw [← tasks_conclude_raise p now r.turn.link hleave, ← hbefore]
      obtain rfl | ⟨n, rfl⟩ := hq <;> rfl
    refine ⟨q, es ++ [(now, s)], hq, ?_, ?_⟩
    · rw [List.filter_append, htaken]
      simp
    · rw [conclude_finish_raise_take hidle q now s, hsame, hbefore, run_tasks q now _ hs,
        course_snoc]
  · simp only [Classical.not_imp] at hleave
    obtain ⟨rfl, hopen⟩ := hleave
    have ho : r.turn.link.closed = false := by simpa using hopen
    have hnothing : tasks p now r.turn.link .leave = [] := by simp [tasks, ho]
    rw [conclude_finish_raise_take hidle p now .leave, hnothing]
    exact serial_take_leave h (hf ho) ho hidle now

end serial

/-- **What holds in every race.** -/
structure Sound (p : Plan ι) (r : Race ι) : Prop where
  /-- An open connection is on its course, -/
  follows : r.turn.link.closed = false → r.Follows p
  /-- and if it were closed now, or is closed, it is on another one. -/
  serial : Serial p r.taken (r.raise.finish p).conclude
  /-- Whoever waits has raised the flag. -/
  waiting : r.waiting = true → r.turn.link.closed = true
  /-- Closed from inside a callback, it is closed by nobody else. -/
  inside : r.next = some .conclude → r.turn.link.closed = true ∧ r.waiting = false
  /-- When the call that closed it has returned, it has been closed for good. -/
  shown : r.turn.link.closed = true → r.closing = false →
    r.next = none ∧ r.turn.link.state = .closed

/-- What has been resolved on but closing is no call to close. -/
theorem closing_eq (h : r.next ≠ some .conclude) : r.closing = r.waiting := by
  unfold closing
  split
  · contradiction
  · exact Bool.or_false _

theorem waiting_of_closing (h : r.closing = false) : r.waiting = false := by
  simp only [closing, Bool.or_eq_false_iff] at h
  exact h.1

theorem sound_fresh (p : Plan ι) : Sound p fresh where
  follows _ _ _ := rfl
  serial := ⟨p, [(0, .close)], .inl rfl, rfl, rfl⟩
  waiting h := Bool.noConfusion h
  inside h := nomatch h
  shown h := Bool.noConfusion h

/-- The flag stays raised. -/
theorem closed_go (p : Plan ι) (h : r.turn.link.closed = true) :
    (r.go p).turn.link.closed = true := by
  have hwent := went_go p r
  generalize r.go p = r' at hwent
  cases hwent with
  | works x rest => exact (x.shown_run h).1
  | stays | takes | releases | refused | enters | allowed | writes | calls | raised
  | concludes => exact h
  | marks | raises => rfl

/-- Only the call that raises the flag from inside a callback is to conclude. -/
theorem Sound.inside_go (h : Sound p r) (hnext : (r.go p).next = some .conclude) :
    (r.go p).turn.link.closed = true ∧ (r.go p).waiting = false := by
  have hwent := went_go p r
  generalize r.go p = r' at hwent hnext
  cases hwent with
  | stays => exact h.inside hnext
  | raises acts hhold ho =>
    refine ⟨rfl, ?_⟩
    by_contra hw
    rw [h.waiting (by simpa using hw)] at ho
    cases ho
  | works _ _ hhold => simp [next, hhold] at hnext
  | takes | releases | refused | enters | allowed | marks | writes | raised
  | concludes => simp [next] at hnext
  | calls c acts =>
    simp only [next, Option.bind_some] at hnext
    split at hnext <;> cases hnext

/-- The call that has closed it had returned before, or it returns now. -/
theorem Sound.shown_go (h : Sound p r) (hc : (r.go p).turn.link.closed = true)
    (hclosing : (r.go p).closing = false) :
    (r.go p).next = none ∧ (r.go p).turn.link.state = .closed := by
  have hwaiting := waiting_go p r
  have hwent := went_go p r
  generalize r.go p = r' at hwent hwaiting hc hclosing
  have hbefore : r.turn.link.closed = true → r.next ≠ some .conclude →
      r.next = none ∧ r.turn.link.state = .closed := fun hc hnext => by
    refine h.shown hc ?_
    rw [closing_eq hnext, ← hwaiting, waiting_of_closing hclosing]
  cases hwent with
  | stays => exact h.shown hc hclosing
  | works x rest hhold htodo hx =>
    cases x with
    | gated acts => exact absurd rfl (hx acts)
    | count | advance | proceed a | dial u => exact hbefore hc (by simp [next, hhold])
  | takes _ _ hhold | releases hhold | refused _ _ hhold =>
    exact ⟨rfl, (hbefore hc (by simp [next, hhold])).2⟩
  | enters s epoch acts hhold ho => exact absurd hc (by simp [ho])
  | allowed c acts hhold ho => exact absurd hc (by simp [ho])
  | marks acts hhold =>
    refine ⟨rfl, ?_⟩
    by_cases hopen : r.turn.link.closed = false
    · exact (h.follows hopen).state_of_marks hhold
    · exact (hbefore (by simpa using hopen) (by simp [next, hhold])).2
  | writes s epoch acts hhold | calls c acts hhold | raised acts hhold =>
    have hnext := (hbefore hc (by simp [next, hhold])).1
    simp [next, hhold] at hnext
  | raises acts hhold => simp [closing, next] at hclosing
  | concludes acts hhold => exact ⟨rfl, rfl⟩

theorem Sound.go (h : Sound p r) : Sound p (r.go p) where
  follows ho := by
    refine (h.follows ?_).go
    by_contra hc
    rw [closed_go p (by simpa using hc)] at ho
    cases ho
  serial := serial_go h.serial h.follows
  waiting hw := closed_go p (h.waiting (by rwa [waiting_go] at hw))
  inside := h.inside_go
  shown := h.shown_go

theorem Sound.take (h : Sound p r) (hidle : r.idle = true) (now : Nat) {s : Stimulus}
    (hs : s ≠ .close) :
    Sound p { r with todo := tasks p now r.turn.link s, taken := r.taken ++ [(now, s)] } where
  follows ho := (h.follows ho).take hidle now hs
  serial := serial_take h.serial h.follows hidle now hs
  waiting := h.waiting
  inside := h.inside
  shown := h.shown

theorem Sound.close (h : Sound p r) (ho : r.turn.link.closed = false) :
    Sound p { r.raise with waiting := true } where
  follows hc := Bool.noConfusion hc
  serial := h.serial
  waiting _ := rfl
  inside hnext := absurd (h.inside hnext).1 (by simp [ho])
  shown _ hclosing := by simp [closing] at hclosing

theorem Sound.pass (h : Sound p r) (hwaiting : r.waiting = true) (hhold : r.hold = none) :
    Sound p { r with turn := r.turn.conclude, waiting := false } where
  follows ho := absurd (h.waiting hwaiting) (by simpa [Turn.conclude, conclude] using ho)
  serial := by
    have hsame : (Race.finish p (Race.raise
        { r with turn := r.turn.conclude, waiting := false })).conclude =
        (r.raise.finish p).conclude := by
      rw [conclude_finish_raise p p, conclude_finish_raise p p]
      simp only [resolved, next, raise, hhold, Option.bind_none, Option.elim_none]
      rfl
    exact hsame ▸ h.serial
  waiting hw := Bool.noConfusion hw
  inside hnext := by simp [next, hhold] at hnext
  shown _ _ := ⟨by simp [next, hhold], rfl⟩

/-- **One move** keeps all of it. -/
theorem Sound.move (h : Sound p r) (m : Move) : Sound p (r.move p m) := by
  cases m with
  | take now s =>
    by_cases hs : s = .close
    · subst hs
      exact h
    · have hmove : r.move p (.take now s) = if r.idle then
          { r with todo := tasks p now r.turn.link s, taken := r.taken ++ [(now, s)] }
          else r := by
        cases s <;> first | rfl | exact absurd rfl hs
      rw [hmove]
      split
      · next hidle => exact h.take hidle now hs
      · exact h
  | go => exact h.go
  | close =>
    simp only [Race.move]
    split
    · exact h
    · next ho => exact h.close (by simpa using ho)
  | pass =>
    simp only [Race.move]
    split
    · next hpass =>
      simp only [Bool.and_eq_true, Option.isNone_iff_eq_none] at hpass
      exact h.pass hpass.1 hpass.2
    · exact h

end Race

/-- **Every race is sound.** -/
theorem sound_race (p : Plan ι) (moves : List Move) : (race p moves).Sound p := by
  induction moves using List.reverseRecOn with
  | nil => exact Race.sound_fresh p
  | append_singleton moves m ih =>
    rw [race, List.foldl_append]
    exact ih.move m

theorem race_append (p : Plan ι) (moves later : List Move) :
    race p (moves ++ later) = later.foldl (Race.move p) (race p moves) := List.foldl_append

/-- **Between two steps, and with nobody closing it, a connection is where a course
would have taken it.** -/
theorem turn_race {moves : List Move} (hidle : (race p moves).idle = true)
    (hclosing : (race p moves).closing = false) :
    Serial p (race p moves).taken (race p moves).turn := by
  have h := sound_race p moves
  generalize race p moves = r at h hidle hclosing
  by_cases hc : r.turn.link.closed = true
  · have hserial := h.serial
    rwa [Race.raise_of_closed hc, Race.finish_of_idle hidle,
      Turn.conclude_of_closed (h.shown hc hclosing).2] at hserial
  · have ho : r.turn.link.closed = false := by simpa using hc
    refine ⟨p, r.taken, .inl rfl, h.serial.filter_taken, ?_⟩
    rw [← (h.follows ho).finish_eq, Race.finish_of_idle hidle]

/-! ## Once the flag is raised -/

namespace Race

/-- The callback that has been allowed and not begun. -/
def pending (r : Race ι) : List (Callback ι) :=
  match r.next with
  | some (.call c) => [c]
  | _ => []

/-- **A closed connection runs no callback but one that had been allowed**, -/
theorem told_go (h : r.turn.link.closed = true) :
    (r.go p).turn.told ++ (r.go p).pending = r.turn.told ++ r.pending := by
  have hwent := went_go p r
  generalize r.go p = r' at hwent
  cases hwent with
  | stays => rfl
  | works x rest hhold htodo hx =>
    simp only [pending, next, hhold, Option.bind_none, List.append_nil]
    cases x with
    | gated acts => exact absurd rfl (hx acts)
    | count | advance | proceed a => rfl
    | dial u => simp [Turn.told, Task.run]
  | enters s epoch acts hhold ho => exact absurd h (by simp [ho])
  | allowed c acts hhold ho => exact absurd h (by simp [ho])
  | takes acts rest hhold | releases hhold | refused a acts hhold | marks acts hhold
  | writes s epoch acts hhold | raises acts hhold | raised acts hhold | concludes acts hhold =>
    have hpending : r.pending = [] := by simp [pending, next, hhold]
    rw [hpending]
    rfl
  | calls c acts hhold =>
    have hpending : r.pending = [c] := by simp [pending, next, hhold]
    rw [hpending]
    simp only [pending, next, Option.bind_some, Turn.told, calls_append, calls_call]
    -- it may go on to close the connection itself
    cases p.closesOn r.turn.link.called c <;> exact List.append_nil _

/-- whatever else happens. -/
theorem told_move (h : r.turn.link.closed = true) (m : Move) :
    (r.move p m).turn.link.closed = true ∧
      (r.move p m).turn.told ++ (r.move p m).pending = r.turn.told ++ r.pending := by
  cases m with
  | take now s =>
    cases s with
    | close => exact ⟨h, rfl⟩
    | start | dialed result | frame epoch f | lost epoch f | alarm | leave =>
      simp only [move]
      split <;> exact ⟨h, rfl⟩
  | go => exact ⟨closed_go p h, told_go h⟩
  | close => simp only [move, h, if_true]; exact ⟨trivial, trivial⟩
  | pass =>
    simp only [move]
    split <;> exact ⟨h, rfl⟩

theorem pending_of_next (h : r.next = none) : r.pending = [] := by simp [pending, h]

/-- With the flag raised and every call returned, no call is under way again. -/
theorem Sound.closing_move (hs : r.Sound p) (hc : r.turn.link.closed = true)
    (hclosing : r.closing = false) (m : Move) : (r.move p m).closing = false := by
  have hnext := (hs.shown hc hclosing).1
  have hwaiting := waiting_of_closing hclosing
  cases m with
  | take now s =>
    cases s with
    | close => exact hclosing
    | start | dialed result | frame epoch f | lost epoch f | alarm | leave =>
      simp only [Race.move]
      split <;> exact hclosing
  | go =>
    change (r.go p).closing = false
    have hwent := went_go p r
    generalize r.go p = r' at hwent
    cases hwent with
    | stays => exact hclosing
    | enters s epoch acts hhold ho => exact absurd hc (by simp [ho])
    | allowed c acts hhold ho => exact absurd hc (by simp [ho])
    | works x rest hhold => simp [closing, next, hhold, hwaiting]
    | takes | releases | refused | marks => simp [closing, next, hwaiting]
    | writes s epoch acts hhold | calls c acts hhold | raises acts hhold | raised acts hhold
    | concludes acts hhold => simp [next, hhold] at hnext
  | close => simpa only [Race.move, hc, if_true] using hclosing
  | pass =>
    simpa only [Race.move, hwaiting, Bool.false_and, Bool.false_eq_true, if_false] using hclosing

/-- The handler's own call returns when it has shown the last state. -/
theorem closing_go (hnext : r.next = some .conclude) (hwaiting : r.waiting = false) :
    (r.go p).closing = false := by
  cases hhold : r.hold with
  | none => simp [next, hhold] at hnext
  | some hold =>
    obtain ⟨x, acts⟩ := hold
    simp only [next, hhold, Option.bind_some] at hnext
    subst hnext
    simp [go, hhold, resolve, closing, next, hwaiting]

end Race

/-- What is closed stays closed, and tells at most what it was about to tell. -/
theorem told_race {moves : List Move} (hc : (race p moves).turn.link.closed = true)
    (later : List Move) :
    (race p (moves ++ later)).turn.link.closed = true ∧
      (race p (moves ++ later)).turn.told ++ (race p (moves ++ later)).pending =
        (race p moves).turn.told ++ (race p moves).pending := by
  induction later using List.reverseRecOn with
  | nil => rw [List.append_nil]; exact ⟨hc, rfl⟩
  | append_singleton later m ih =>
    obtain ⟨hclosed, htold⟩ := ih
    rw [← List.append_assoc, race_append p _ [m]]
    obtain ⟨hclosed', htold'⟩ := Race.told_move hclosed m
    exact ⟨hclosed', htold'.trans htold⟩

/-- A second call that comes while the first still waits returns at once, and the
callback that had been allowed begins after that. -/
example :
    let p : Plan Unit :=
      ⟨.standard, fun _ => .ok ⟨[], [], [], none, none, .flat [], none, none⟩, fun _ => .ok (),
        fun _ _ => false⟩
    let first := [.take 0 .start, .go, .go, .go, .go, .close]
    (race p first).waiting = true ∧ race p (first ++ [.close]) = race p first ∧
      (race p first).turn.told = [] ∧
      (race p (first ++ [.close, .go])).turn.told = [.state .connecting 0] := by
  exact ⟨rfl, rfl, rfl, rfl⟩

/-- **Closed for good**: when every call that closes a connection has returned, its
handler hears no more and it says that it is closed, whatever comes. -/
theorem shut_race {moves : List Move} (hc : (race p moves).turn.link.closed = true)
    (hclosing : (race p moves).closing = false) (later : List Move) :
    (race p (moves ++ later)).closing = false ∧
      (race p (moves ++ later)).turn.link.state = .closed ∧
      (race p (moves ++ later)).turn.told = (race p moves).turn.told := by
  have hclosing' : (race p (moves ++ later)).closing = false := by
    induction later using List.reverseRecOn with
    | nil => rwa [List.append_nil]
    | append_singleton later m ih =>
      rw [← List.append_assoc, race_append p _ [m]]
      exact (sound_race p _).closing_move (told_race hc later).1 ih m
  obtain ⟨hc', htold⟩ := told_race hc later
  obtain ⟨hnext, -⟩ := (sound_race p moves).shown hc hclosing
  obtain ⟨hnext', hstate'⟩ := (sound_race p _).shown hc' hclosing'
  rw [Race.pending_of_next hnext, Race.pending_of_next hnext', List.append_nil,
    List.append_nil] at htold
  exact ⟨hclosing', hstate', htold⟩

/-! ## Races there are -/

/-- Whoever waits for the gate passes it in the end. -/
theorem exists_pass (p : Plan ι) (moves : List Move) :
    ∃ k, (race p (moves ++ List.replicate k .go ++ [.pass])).waiting = false := by
  obtain ⟨k, hk⟩ := Race.exists_finish p (race p moves)
  refine ⟨k, ?_⟩
  rw [race_append p _ [.pass], race_append p moves, hk]
  cases (race p moves).waiting <;> simp [Race.move]

/-- **Every course is a race**: each step runs to its end before the next, and
whoever closes the connection comes in between. -/
theorem exists_race (p : Plan ι) (es : List (Nat × Stimulus)) :
    ∃ moves, race p moves =
      ⟨course p es, [], none, false, es.filter fun e => !e.2 matches .close⟩ := by
  induction es using List.reverseRecOn with
  | nil => exact ⟨[], rfl⟩
  | append_singleton es e ih =>
    obtain ⟨moves, hmoves⟩ := ih
    obtain ⟨now, s⟩ := e
    rw [course_snoc, List.filter_append]
    by_cases hs : s = .close
    · subst hs
      refine ⟨moves ++ [.close, .pass], ?_⟩
      rw [race_append, hmoves, take_close]
      cases hc : (course p es).link.closed with
      | true => simp [Race.move, hc, shut_of_closed hc]
      | false => simp [Race.move, hc, shut_of_open hc, Turn.raise, Turn.conclude]
    · obtain ⟨k, hk⟩ := Race.exists_finish p (race p (moves ++ [.take now s]))
      refine ⟨moves ++ [.take now s] ++ List.replicate k .go, ?_⟩
      have htake : race p (moves ++ [.take now s]) =
          ⟨course p es, tasks p now (course p es).link s, none, false,
            (es.filter fun e => !e.2 matches .close) ++ [(now, s)]⟩ := by
        rw [race_append, hmoves]
        cases s <;> first | rfl | exact absurd rfl hs
      rw [race_append, hk, htake]
      simp only [Race.finish, Option.elim_none, run_tasks p now _ hs]
      simp

end Connection

end Telemetry
