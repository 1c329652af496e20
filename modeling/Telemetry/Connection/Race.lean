import Telemetry.Connection.Machine
/-!
# Connection — races

A connection runs on a task of its own, and anyone may close it at any
time, from any thread. What the two share is the flag, the state that is
shown, and a gate. The task holds the gate while it runs a callback, and
from before it looks at the flag until after what the flag allows. Whoever
closes the connection raises the flag at once, waits for the gate, and
shows the last state then. From inside a callback the gate need not be
waited for, since the task holds it. A call that finds the flag raised
returns at once, whether or not the call that raised it has returned.

So a step is cut into pieces, with room for others between any two of
them: every look at the flag, every write of the state, every start of a
callback and everything done outside the gate is one of them.
-/

namespace Telemetry

namespace Connection

variable {ι : Type}

/-- What the task does under the gate, if a look at the flag allows it. -/
inductive Act (ι : Type) where
  /-- Enters a state and tells the handler. -/
  | enter (s : State) (epoch : Nat)
  /-- Runs a callback on behalf of an epoch. -/
  | deliver (epoch : Nat) (c : Callback ι)
  /-- Raises the flag: the connection has given up. -/
  | mark

/-- What the task does next under the gate without another look. -/
inductive Resolve (ι : Type) where
  /-- Shows a state that has been allowed. -/
  | write (s : State) (epoch : Nat)
  /-- Starts a callback that has been allowed. -/
  | call (c : Callback ι)
  /-- The handler closes the connection from inside a callback: the flag, -/
  | raise
  /-- and the last state. -/
  | conclude

/-- What is still to be done while the task holds the gate. -/
structure Hold (ι : Type) where
  next : Option (Resolve ι)
  acts : List (Act ι)

/-- What a step is made of. Nobody else touches what is not done under the
gate. -/
inductive Task (ι : Type) where
  | gated (acts : List (Act ι))
  | count
  | advance
  | proceed (a : Activity)
  | dial (u : Url)

namespace Turn

/-- Raises the flag. -/
def raise (t : Turn ι) : Turn ι := { t with link := t.link.raise }

/-- Shows the last state. -/
def conclude (t : Turn ι) : Turn ι := { t with link := t.link.conclude }

end Turn

/-- What giving up is made of. -/
def failing (c : Connection) (f : Fault) : List (Task ι) :=
  [.gated [.enter .closed c.epoch, .deliver c.epoch (.terminal f), .mark], .proceed .finished]

/-- What an attempt is made of. -/
def attempting (p : Plan ι) (now : Nat) (c : Connection) : List (Task ι) :=
  match p.address c.attempts with
  | .error f => .count :: failing c f
  | .ok u => [.count, .dial u, .proceed (.dialing (now + p.policy.heartbeatTimeout.millis))]

/-- What losing a socket is made of. -/
def losing (p : Plan ι) (now : Nat) (c : Connection) (f : Fault) : List (Task ι) :=
  if p.policy.autoReconnect then
    [.gated [.enter .reconnecting c.epoch],
      .proceed (.resting (now + p.policy.reconnectDelay.millis))]
  else failing c f

/-- What opening a socket is made of. -/
def greeting (p : Plan ι) (now : Nat) (c : Connection) : List (Task ι) :=
  let epoch := if c.opened then c.epoch + 1 else c.epoch
  [.advance, .gated [.enter .live epoch],
    .proceed (.listening (now + p.policy.heartbeatTimeout.millis))]

/-- What hearing a frame is made of. -/
def hearing (p : Plan ι) (now : Nat) (c : Connection) (epoch : Nat) : Frame → List (Task ι)
  | .close => losing p now c (.transport "closed by remote host")
  | .ping =>
    [.proceed (.listening (now + p.policy.heartbeatTimeout.millis)),
      .gated [.deliver epoch .heartbeat]]
  | .text s =>
    .proceed (.listening (now + p.policy.heartbeatTimeout.millis)) ::
      match Payload.decode p.read s with
      | .ok .heartbeat => [.gated [.deliver epoch .heartbeat]]
      | .ok (.results batch) => [.gated [.deliver epoch (.data batch)]]
      | .error _ => []

/-- What waking up is made of. -/
def waking (p : Plan ι) (now : Nat) (c : Connection) : List (Task ι) :=
  match c.activity with
  | .dialing deadline | .listening deadline =>
    if deadline ≤ now then losing p now c (.silence p.policy.heartbeatTimeout) else []
  | .resting time => if time ≤ now then attempting p now c else []
  | _ => []

/-- **What a step is made of.** Closing is none of the task's business. -/
def tasks (p : Plan ι) (now : Nat) (c : Connection) (s : Stimulus) : List (Task ι) :=
  match s, c.activity with
  | .start, .fresh => .gated [.enter .connecting 0] :: attempting p now c
  | .dialed (.ok _), .dialing _ => greeting p now c
  | .dialed (.error f), .dialing _ => losing p now c f
  | .frame epoch f, .listening _ => if epoch = c.epoch then hearing p now c epoch f else []
  | .lost epoch f, .listening _ => if epoch = c.epoch then losing p now c f else []
  | .alarm, _ => waking p now c
  | .leave, a => if c.closed && a.alarm?.isSome then [.proceed .finished] else []
  | _, _ => []

/-- A connection on which several threads work. -/
structure Race (ι : Type) where
  turn : Turn ι
  /-- What is left of the step that the task is in. -/
  todo : List (Task ι)
  /-- What is left to be done under the gate, if the task holds it. -/
  hold : Option (Hold ι)
  /-- Someone has raised the flag from outside and waits for the gate. -/
  waiting : Bool
  /-- The stimuli the task has taken so far, with their times. -/
  taken : List (Nat × Stimulus)

/-- What happens in a race. -/
inductive Move where
  /-- The task is through with a step and takes a stimulus. -/
  | take (now : Nat) (s : Stimulus)
  /-- The task does the next piece of its step. -/
  | go
  /-- Someone calls for the connection to be closed. -/
  | close
  /-- Whoever waits for the gate gets it, and returns. -/
  | pass

namespace Race

/-- A connection that has not started, and nobody who closes it. -/
def fresh : Race ι := ⟨.of .fresh, [], none, false, []⟩

/-- Whether the task is through with its step. -/
def idle (r : Race ι) : Bool := r.todo.isEmpty && r.hold.isNone

/-- What has been resolved on. -/
def next (r : Race ι) : Option (Resolve ι) := r.hold.bind Hold.next

/-- Whether a call to close that has raised the flag is still to return. -/
def closing (r : Race ι) : Bool :=
  r.waiting || match r.next with
    | some .conclude => true
    | _ => false

/-- Does what has been resolved on. -/
def resolve (p : Plan ι) (r : Race ι) (acts : List (Act ι)) : Resolve ι → Race ι
  | .write s epoch =>
    { r with
      turn := { r.turn with link := { r.turn.link with state := s } }
      hold := some ⟨none, .deliver epoch (.state s epoch) :: acts⟩ }
  | .call c =>
    { r with
      turn := ⟨{ r.turn.link with called := r.turn.link.called + 1 }, r.turn.signals ++ [.call c]⟩
      hold := some ⟨if p.closesOn r.turn.link.called c then some .raise else none, acts⟩ }
  | .raise =>
    if r.turn.link.closed then { r with hold := some ⟨none, acts⟩ }
    else { r with turn := r.turn.raise, hold := some ⟨some .conclude, acts⟩ }
  | .conclude => { r with turn := r.turn.conclude, hold := some ⟨none, acts⟩ }

/-- Looks at the flag, and resolves on what it allows. -/
def look (r : Race ι) (acts : List (Act ι)) : Act ι → Race ι
  | .enter s epoch =>
    { r with hold := some ⟨if r.turn.link.closed then none else some (.write s epoch), acts⟩ }
  | .deliver epoch c =>
    { r with
      hold := some ⟨if r.turn.link.closed || r.turn.link.epoch != epoch then none
        else some (.call c), acts⟩ }
  | .mark => { r with turn := r.turn.raise, hold := some ⟨none, acts⟩ }

/-- Does what needs no gate, or takes the gate. -/
def begin (r : Race ι) (rest : List (Task ι)) : Task ι → Race ι
  | .gated acts => { r with todo := rest, hold := some ⟨none, acts⟩ }
  | .count => { r with todo := rest, turn := r.turn.count }
  | .advance => { r with todo := rest, turn := r.turn.advance }
  | .proceed a => { r with todo := rest, turn := r.turn.proceed a }
  | .dial u => { r with todo := rest, turn := { r.turn with signals := r.turn.signals ++ [.dial u] } }

/-- **The next piece of a step.** When there is nothing left to be done under
the gate, the task lets go of it. -/
def go (p : Plan ι) (r : Race ι) : Race ι :=
  match r.hold, r.todo with
  | some ⟨some x, acts⟩, _ => r.resolve p acts x
  | some ⟨none, a :: acts⟩, _ => r.look acts a
  | some ⟨none, []⟩, _ => { r with hold := none }
  | none, task :: rest => r.begin rest task
  | none, [] => r

/-- **One move.** A call to close raises the flag and waits, but returns at once
if the flag is raised already. -/
def move (p : Plan ι) (r : Race ι) : Move → Race ι
  | .take _ .close => r
  | .take now s =>
    if r.idle then
      { r with todo := tasks p now r.turn.link s, taken := r.taken ++ [(now, s)] }
    else r
  | .go => r.go p
  | .close =>
    if r.turn.link.closed then r else { r with turn := r.turn.raise, waiting := true }
  | .pass =>
    if r.waiting && r.hold.isNone then { r with turn := r.turn.conclude, waiting := false } else r

end Race

/-- **The race** that some moves make. -/
def race (p : Plan ι) (moves : List Move) : Race ι := moves.foldl (Race.move p) .fresh

end Connection

end Telemetry
