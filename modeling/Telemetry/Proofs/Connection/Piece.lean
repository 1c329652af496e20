import Telemetry.Connection.Race
import Telemetry.Proofs.Connection.Turn
/-!
# Connection — steps and their pieces

The pieces that a step is cut into come to the step if nobody comes in
between (`run_tasks`), and it makes no difference how many of them have been
done (`Race.finish_go`). `Race.Went` lists what the next piece can be, and
facts about races are proved by its cases. Once the connection is closed
nothing is done under the gate, and what else a step does depends on neither
the state nor the handler (`conclude_run`).
-/

namespace Telemetry

namespace Connection

variable {ι : Type} {p q : Plan ι} {now : Nat} {t : Turn ι} {r : Race ι}

/-! ## Steps, put together -/

/-- What an act comes to with nobody in between. -/
def Act.run (p : Plan ι) (t : Turn ι) : Act ι → Turn ι
  | .enter s epoch => t.enter p s epoch
  | .deliver epoch c => t.deliver p epoch c
  | .mark => t.raise

/-- What comes of what has been resolved on. -/
def Resolve.run (p : Plan ι) (t : Turn ι) : Resolve ι → Turn ι
  | .write s epoch =>
    Turn.deliver p { t with link := { t.link with state := s } } epoch (.state s epoch)
  | .call c => t.tell p c
  | .raise => { t with link := t.link.shut }
  | .conclude => t.conclude

/-- What comes of what is left to be done under the gate. -/
def Hold.run (p : Plan ι) (t : Turn ι) (h : Hold ι) : Turn ι :=
  h.acts.foldl (Act.run p) (h.next.elim t (Resolve.run p t))

/-- What a piece of a step comes to. -/
def Task.run (p : Plan ι) (t : Turn ι) : Task ι → Turn ι
  | .gated acts => acts.foldl (Act.run p) t
  | .count => t.count
  | .advance => t.advance
  | .proceed a => t.proceed a
  | .dial u => { t with signals := t.signals ++ [.dial u] }

/-- **What the step under way comes to** if nobody comes in any more. -/
def Race.finish (p : Plan ι) (r : Race ι) : Turn ι :=
  r.todo.foldl (Task.run p) (r.hold.elim r.turn (Hold.run p r.turn))

section tasks

variable (p now)

theorem run_failing (t : Turn ι) (f : Fault) :
    (failing t.link f).foldl (Task.run p) t = t.fail p f := rfl

theorem run_attempting (t : Turn ι) :
    (attempting p now t.link).foldl (Task.run p) t = t.attempt p now := by
  unfold attempting Turn.attempt
  cases p.address t.link.attempts with
  | error f => exact run_failing p t.count f
  | ok u => rfl

theorem run_losing (t : Turn ι) (f : Fault) :
    (losing p now t.link f).foldl (Task.run p) t = t.lose p now f := by
  unfold losing Turn.lose
  cases p.policy.autoReconnect with
  | true => rfl
  | false => exact run_failing p t f

theorem run_greeting (t : Turn ι) :
    (greeting p now t.link).foldl (Task.run p) t = t.greet p now := rfl

theorem run_hearing (t : Turn ι) (epoch : Nat) (f : Frame) :
    (hearing p now t.link epoch f).foldl (Task.run p) t = t.hear p now epoch f := by
  cases f with
  | close => exact run_losing p now t _
  | ping => rfl
  | text s =>
    simp only [hearing, Turn.hear]
    rcases Payload.decode p.read s with _ | _ | batch <;> rfl

theorem run_waking (t : Turn ι) :
    (waking p now t.link).foldl (Task.run p) t = t.wake p now := by
  unfold waking Turn.wake
  cases t.link.activity with
  | fresh | finished => rfl
  | dialing deadline | listening deadline =>
    dsimp only
    split
    · exact run_losing p now t _
    · rfl
  | resting time =>
    dsimp only
    split
    · exact run_attempting p now t
    · rfl

end tasks

/-- An attempt depends on nothing that a callback changes. -/
theorem attempting_enter (p : Plan ι) (now : Nat) (t : Turn ι) (s : State) (epoch : Nat) :
    attempting p now (t.enter p s epoch).link = attempting p now t.link := by
  simp only [attempting, failing, Turn.attempts_enter, Turn.epoch_enter]

/-- **The pieces of a step come to the step.** -/
theorem run_tasks (p : Plan ι) (now : Nat) (t : Turn ι) {s : Stimulus} (hs : s ≠ .close) :
    (tasks p now t.link s).foldl (Task.run p) t = t.take p now s := by
  unfold tasks Turn.take
  cases s with
  | start =>
    cases t.link.activity with
    | fresh =>
      dsimp only
      rw [← run_attempting, attempting_enter]
      rfl
    | _ => rfl
  | dialed result =>
    cases t.link.activity with
    | dialing deadline =>
      cases result with
      | ok => exact run_greeting p now t
      | error f => exact run_losing p now t f
    | _ => cases result <;> rfl
  | frame epoch f =>
    cases t.link.activity with
    | listening deadline =>
      dsimp only
      split
      · exact run_hearing p now t epoch f
      · rfl
    | _ => rfl
  | lost epoch f =>
    cases t.link.activity with
    | listening deadline =>
      dsimp only
      split
      · exact run_losing p now t f
      · rfl
    | _ => rfl
  | alarm => exact run_waking p now t
  | close => exact absurd rfl hs
  | leave =>
    dsimp only
    split <;> rfl

/-! ## The next piece -/

/-- **What the next piece of a step can be.** -/
inductive Race.Went (p : Plan ι) (r : Race ι) : Race ι → Prop where
  | stays (hhold : r.hold = none) (htodo : r.todo = []) : Went p r r
  /-- Something that needs no gate. -/
  | works (x : Task ι) (rest : List (Task ι)) (hhold : r.hold = none) (htodo : r.todo = x :: rest)
      (hx : ∀ acts, x ≠ .gated acts) : Went p r { r with todo := rest, turn := x.run p r.turn }
  | takes (acts : List (Act ι)) (rest : List (Task ι)) (hhold : r.hold = none)
      (htodo : r.todo = .gated acts :: rest) :
      Went p r { r with todo := rest, hold := some ⟨none, acts⟩ }
  | releases (hhold : r.hold = some ⟨none, []⟩) : Went p r { r with hold := none }
  /-- The connection is closed, or the epoch is over. -/
  | refused (a : Act ι) (acts : List (Act ι)) (hhold : r.hold = some ⟨none, a :: acts⟩)
      (ha : ∀ q, a.run q r.turn = r.turn) : Went p r { r with hold := some ⟨none, acts⟩ }
  | enters (s : State) (epoch : Nat) (acts : List (Act ι))
      (hhold : r.hold = some ⟨none, .enter s epoch :: acts⟩) (ho : r.turn.link.closed = false) :
      Went p r { r with hold := some ⟨some (.write s epoch), acts⟩ }
  | allowed (c : Callback ι) (acts : List (Act ι))
      (hhold : r.hold = some ⟨none, .deliver r.turn.link.epoch c :: acts⟩)
      (ho : r.turn.link.closed = false) : Went p r { r with hold := some ⟨some (.call c), acts⟩ }
  | marks (acts : List (Act ι)) (hhold : r.hold = some ⟨none, .mark :: acts⟩) :
      Went p r { r with turn := r.turn.raise, hold := some ⟨none, acts⟩ }
  | writes (s : State) (epoch : Nat) (acts : List (Act ι))
      (hhold : r.hold = some ⟨some (.write s epoch), acts⟩) :
      Went p r { r with
        turn := { r.turn with link := { r.turn.link with state := s } }
        hold := some ⟨none, .deliver epoch (.state s epoch) :: acts⟩ }
  | calls (c : Callback ι) (acts : List (Act ι)) (hhold : r.hold = some ⟨some (.call c), acts⟩) :
      Went p r { r with
        turn := ⟨{ r.turn.link with called := r.turn.link.called + 1 },
          r.turn.signals ++ [.call c]⟩
        hold := some ⟨if p.closesOn r.turn.link.called c then some .raise else none, acts⟩ }
  | raises (acts : List (Act ι)) (hhold : r.hold = some ⟨some .raise, acts⟩)
      (ho : r.turn.link.closed = false) :
      Went p r { r with turn := r.turn.raise, hold := some ⟨some .conclude, acts⟩ }
  /-- Someone else has raised the flag. -/
  | raised (acts : List (Act ι)) (hhold : r.hold = some ⟨some .raise, acts⟩)
      (hc : r.turn.link.closed = true) : Went p r { r with hold := some ⟨none, acts⟩ }
  | concludes (acts : List (Act ι)) (hhold : r.hold = some ⟨some .conclude, acts⟩) :
      Went p r { r with turn := r.turn.conclude, hold := some ⟨none, acts⟩ }

theorem Race.went_go (p : Plan ι) (r : Race ι) : r.Went p (r.go p) := by
  obtain ⟨t, todo, hold, waiting, taken⟩ := r
  rcases hold with _ | ⟨_ | x, acts⟩
  · rcases todo with _ | ⟨x, rest⟩
    · exact .stays rfl rfl
    · cases x with
      | gated acts => exact .takes acts rest rfl rfl
      | count => exact .works .count rest rfl rfl nofun
      | advance => exact .works .advance rest rfl rfl nofun
      | proceed a => exact .works (.proceed a) rest rfl rfl nofun
      | dial u => exact .works (.dial u) rest rfl rfl nofun
  · rcases acts with _ | ⟨a, acts⟩
    · exact .releases rfl
    · simp only [go]
      cases a with
      | enter s epoch =>
        simp only [look]
        cases hc : t.link.closed with
        | false => exact .enters s epoch acts rfl hc
        | true => exact .refused (.enter s epoch) acts rfl fun q => Turn.enter_of_closed hc s
      | deliver epoch c =>
        simp only [look]
        split
        · next hnot =>
          refine .refused (.deliver epoch c) acts rfl fun q => ?_
          simp only [Act.run, Turn.deliver, hnot, if_true]
        · next hall =>
          simp only [Bool.or_eq_true, bne_iff_ne, not_or, ne_eq, not_not] at hall
          obtain ⟨ho, rfl⟩ := hall
          exact .allowed c acts rfl (by simpa using ho)
      | mark => exact .marks acts rfl
  · simp only [go]
    cases x with
    | write s epoch => exact .writes s epoch acts rfl
    | call c => exact .calls c acts rfl
    | raise =>
      simp only [resolve]
      cases hc : t.link.closed with
      | false => exact .raises acts rfl hc
      | true => exact .raised acts rfl hc
    | conclude => exact .concludes acts rfl

namespace Race

@[simp] theorem taken_go (p : Plan ι) (r : Race ι) : (r.go p).taken = r.taken := by
  have h := went_go p r
  generalize r.go p = r' at h
  cases h <;> rfl

@[simp] theorem waiting_go (p : Plan ι) (r : Race ι) : (r.go p).waiting = r.waiting := by
  have h := went_go p r
  generalize r.go p = r' at h
  cases h <;> rfl

theorem idle_iff : r.idle = true ↔ r.todo = [] ∧ r.hold = none := by
  rw [idle, Bool.and_eq_true, List.isEmpty_iff, Option.isNone_iff_eq_none]

theorem finish_of_idle (h : r.idle = true) : r.finish p = r.turn := by
  obtain ⟨htodo, hhold⟩ := idle_iff.1 h
  simp only [finish, htodo, hhold, List.foldl_nil, Option.elim_none]

/-- **A piece more or less makes no difference** to what the step comes to. -/
theorem finish_go (p : Plan ι) (r : Race ι) : (r.go p).finish p = r.finish p := by
  have h := went_go p r
  generalize r.go p = r' at h
  cases h with
  | stays => rfl
  | works x rest hhold htodo => simp only [finish, hhold, htodo, Option.elim_none, List.foldl_cons]
  | takes acts rest hhold htodo =>
    simp only [finish, hhold, htodo, Option.elim_none, Option.elim_some, List.foldl_cons]
    rfl
  | releases hhold =>
    simp only [finish, hhold, Option.elim_none, Option.elim_some]
    rfl
  | refused a acts hhold ha =>
    simp only [finish, hhold, Option.elim_some, Hold.run, Option.elim_none, List.foldl_cons, ha p]
  | enters s epoch acts hhold ho =>
    have henter : Act.run p r.turn (.enter s epoch) = Resolve.run p r.turn (.write s epoch) := by
      simp only [Act.run, Turn.enter, ho, Bool.false_eq_true, if_false, Resolve.run]
    simp only [finish, hhold, Option.elim_some, Hold.run, Option.elim_none, List.foldl_cons, henter]
  | allowed c acts hhold ho =>
    have hdeliver : Act.run p r.turn (.deliver r.turn.link.epoch c) = r.turn.tell p c :=
      Turn.deliver_of_open ho c
    simp only [finish, hhold, Option.elim_some, Hold.run, Option.elim_none, List.foldl_cons,
      hdeliver]
    rfl
  | marks acts hhold =>
    simp only [finish, hhold, Option.elim_some]
    rfl
  | writes s epoch acts hhold =>
    simp only [finish, hhold, Option.elim_some]
    rfl
  | calls c acts hhold =>
    simp only [finish, hhold, Option.elim_some, Hold.run, Resolve.run, Turn.tell]
    split <;> rfl
  | raises acts hhold ho =>
    simp only [finish, hhold, Option.elim_some, Hold.run, Resolve.run, shut_of_open ho]
    rfl
  | raised acts hhold hc =>
    simp only [finish, hhold, Option.elim_some, Hold.run, Resolve.run, shut_of_closed hc]
    rfl
  | concludes acts hhold =>
    simp only [finish, hhold, Option.elim_some]
    rfl

end Race

/-! ## Every step comes to its end -/

/-- How many pieces it takes at most to do what has been resolved on. -/
def Resolve.size : Resolve ι → Nat
  | .write _ _ => 5
  | .call _ => 3
  | .raise => 2
  | .conclude => 1

/-- How many pieces an act takes at most. -/
def Act.size : Act ι → Nat
  | .enter _ _ => 6
  | .deliver _ _ => 4
  | .mark => 1

/-- How many pieces acts take at most, one after the other. -/
def Act.sizes (acts : List (Act ι)) : Nat := acts.foldr (fun a n => a.size + n) 0

def Hold.size (h : Hold ι) : Nat := 1 + h.next.elim 0 Resolve.size + Act.sizes h.acts

def Task.size : Task ι → Nat
  | .gated acts => 2 + Act.sizes acts
  | _ => 1

namespace Race

/-- How many pieces are left of a step at most. -/
def size (r : Race ι) : Nat :=
  r.hold.elim 0 Hold.size + r.todo.foldr (fun x n => x.size + n) 0

theorem size_go (p : Plan ι) (h : r.idle = false) : (r.go p).size < r.size := by
  have hwent := went_go p r
  generalize r.go p = r' at hwent
  cases hwent with
  | stays hhold htodo => simp [idle, hhold, htodo] at h
  | works x rest hhold htodo hx =>
    cases x with
    | gated acts => exact absurd rfl (hx acts)
    | count | advance | proceed a | dial u => simp [size, hhold, htodo, Task.size]
  | takes acts rest hhold htodo =>
    simp [size, hhold, htodo, Task.size, Hold.size, Act.sizes]
  | releases hhold => simp [size, hhold, Hold.size, Act.sizes]
  | refused a acts hhold =>
    cases a <;> simp [size, hhold, Hold.size, Act.sizes, Act.size]
  | calls c acts hhold =>
    simp only [size, hhold, Hold.size, Option.elim_some, Resolve.size]
    split <;> simp [Resolve.size]
  | writes s epoch acts hhold =>
    simp [size, hhold, Hold.size, Act.sizes, Act.size, Resolve.size]
    omega
  | enters s epoch acts hhold | allowed c acts hhold | marks acts hhold | raises acts hhold
  | raised acts hhold | concludes acts hhold =>
    simp [size, hhold, Hold.size, Act.sizes, Act.size, Resolve.size]

/-- **A step that nobody interferes with comes to its end.** -/
theorem exists_finish (p : Plan ι) (r : Race ι) :
    ∃ k, (List.replicate k Move.go).foldl (move p) r =
      { r with turn := r.finish p, todo := [], hold := none } := by
  by_cases h : r.idle = true
  · refine ⟨0, ?_⟩
    rw [finish_of_idle h]
    obtain ⟨htodo, hhold⟩ := idle_iff.1 h
    obtain ⟨t, todo, hold, waiting, taken⟩ := r
    cases htodo
    cases hhold
    rfl
  · obtain ⟨k, hk⟩ := exists_finish p (r.go p)
    refine ⟨k + 1, ?_⟩
    rw [List.replicate_succ, List.foldl_cons]
    change (List.replicate k Move.go).foldl (move p) (r.go p) = _
    rw [hk, finish_go, waiting_go, taken_go]
  termination_by r.size
  decreasing_by exact size_go p (by simpa using h)

end Race

/-! ## What a closed connection still does -/

theorem Turn.raise_of_closed (h : t.link.closed = true) : t.raise = t := by
  obtain ⟨link, signals⟩ := t
  obtain ⟨state, epoch, closed, opened, attempts, called, activity⟩ := link
  cases h
  rfl

theorem Turn.conclude_of_closed (h : t.link.state = .closed) : t.conclude = t := by
  obtain ⟨link, signals⟩ := t
  obtain ⟨state, epoch, closed, opened, attempts, called, activity⟩ := link
  cases h
  rfl

section closed

variable (hc : t.link.closed = true)

include hc

/-- Under the gate a closed connection does nothing. -/
theorem Act.run_of_closed (a : Act ι) : a.run p t = t := by
  cases a with
  | enter s epoch => exact Turn.enter_of_closed hc s
  | deliver epoch c => exact Turn.deliver_of_closed hc c
  | mark => exact Turn.raise_of_closed hc

theorem foldl_acts_of_closed (acts : List (Act ι)) : acts.foldl (Act.run p) t = t := by
  induction acts with
  | nil => rfl
  | cons a acts ih => rw [List.foldl_cons, a.run_of_closed hc, ih]

/-- What else a step does leaves the flag and the state alone, -/
theorem Task.shown_run (x : Task ι) :
    (x.run p t).link.closed = true ∧ (x.run p t).link.state = t.link.state := by
  cases x with
  | gated acts => rw [Task.run, foldl_acts_of_closed hc]; exact ⟨hc, rfl⟩
  | count | advance | proceed a | dial u => exact ⟨hc, rfl⟩

/-- and depends on neither the state nor the handler. -/
theorem Task.conclude_run (x : Task ι) : (x.run p t).conclude = x.run q t.conclude := by
  cases x with
  | gated acts =>
    simp only [Task.run, foldl_acts_of_closed hc, foldl_acts_of_closed (t := t.conclude) hc]
  | count | advance | proceed a | dial u => rfl

end closed

theorem shown_run (hc : t.link.closed = true) (todo : List (Task ι)) :
    (todo.foldl (Task.run p) t).link.closed = true ∧
      (todo.foldl (Task.run p) t).link.state = t.link.state := by
  induction todo generalizing t with
  | nil => exact ⟨hc, rfl⟩
  | cons x todo ih =>
    obtain ⟨hclosed, hstate⟩ := x.shown_run (p := p) hc
    obtain ⟨hclosed', hstate'⟩ := ih hclosed
    exact ⟨hclosed', hstate'.trans hstate⟩

/-- **The rest of a closed connection's step** is the same whatever it shows and
whoever listens. -/
theorem conclude_run (hc : t.link.closed = true) (todo : List (Task ι)) :
    (todo.foldl (Task.run p) t).conclude = todo.foldl (Task.run q) t.conclude := by
  induction todo generalizing t with
  | nil => rfl
  | cons x todo ih =>
    rw [List.foldl_cons, List.foldl_cons, ih (x.shown_run hc).1, x.conclude_run (q := q) hc]

end Connection

end Telemetry
