import Telemetry.Connection.Policy
import Telemetry.Location
import Telemetry.Payload
import Telemetry.Url.Basic
/-!
# Connection — the machine

One subscription, kept alive over as many sockets as it takes. The
machine answers each stimulus (a socket opened or lost, a frame, an
alarm, a request to close) with the callbacks its handler gets and the
addresses it dials. It is told the time and never asks for it.

Sockets are numbered by epochs. A stimulus that belongs to the socket of
an earlier epoch is ignored. Once the connection is closed no callback
runs any more; a handler may close it from inside a callback, and the
callbacks that were to follow are left out. Closing does not stop what the
connection is doing: it stops when it finds out, at its next wait
(`Stimulus.leave`), and until then it may take whatever else is ready.

Here a step runs to its end before anyone else comes in. What becomes of
a connection that is closed from another thread, between any two actions
of a step, is the matter of its races (`Connection.Race`).
-/

namespace Telemetry

/-- What is fixed about a connection when it is opened. -/
structure Connection.Plan (ι : Type) where
  policy : Connection.Policy
  /-- The address for each attempt, by its number. -/
  address : Nat → Except Connection.Fault Url
  /-- Reads one item of a batch. -/
  read : Json.Value → Except Json.ShapeError ι
  /-- Whether the handler closes the connection from inside a callback,
  given how many callbacks ran before. -/
  closesOn : Nat → Connection.Callback ι → Bool

/-- What a connection is doing. Times are in milliseconds. -/
inductive Connection.Activity where
  | fresh
  /-- Waits for a socket to open. -/
  | dialing (deadline : Nat)
  /-- Waits for a frame. -/
  | listening (deadline : Nat)
  /-- Waits before the next attempt. -/
  | resting (wake : Nat)
  | finished
  deriving DecidableEq, Repr

/-- A connection between two stimuli. -/
structure Connection where
  state : Connection.State
  epoch : Nat
  closed : Bool
  /-- Whether a socket has ever been open. -/
  opened : Bool
  /-- How many addresses have been asked for. -/
  attempts : Nat
  /-- How many callbacks have run. -/
  called : Nat
  activity : Connection.Activity
  deriving DecidableEq, Repr

namespace Connection

/-- A connection that has not started yet. -/
def fresh : Connection := ⟨.connecting, 0, false, false, 0, 0, .fresh⟩

/-- The form that shows a connection's parts by name. -/
def description (c : Connection) (l : Location) : String :=
  "ConnectionHandle \x7b location: " ++ l.description ++ ", state: " ++ c.state.name ++
    ", epoch: " ++ toString c.epoch ++ " \x7d"

/-- When the connection has to be woken; it waits exactly if there is such
a time. -/
def Activity.alarm? : Activity → Option Nat
  | .dialing t => some t
  | .listening t => some t
  | .resting t => some t
  | _ => none

/-- What happens to a connection. -/
inductive Stimulus where
  | start
  /-- An attempt to open a socket has ended. -/
  | dialed (result : Except Fault Unit)
  /-- A frame of the socket of an epoch. -/
  | frame (epoch : Nat) (f : Frame)
  /-- The socket of an epoch is gone. -/
  | lost (epoch : Nat) (f : Fault)
  /-- Time has passed. -/
  | alarm
  /-- Someone asks for the connection to be closed. -/
  | close
  /-- A connection that waits finds out that it is closed. -/
  | leave

/-- What a connection does. -/
inductive Signal (ι : Type) where
  | call (c : Callback ι)
  | dial (u : Url)

/-- The callbacks among some signals. -/
def calls {ι : Type} (signals : List (Signal ι)) : List (Callback ι) :=
  signals.filterMap fun s => match s with
    | .call c => some c
    | .dial _ => none

/-- The addresses among some signals. -/
def dials {ι : Type} (signals : List (Signal ι)) : List Url :=
  signals.filterMap fun s => match s with
    | .dial u => some u
    | .call _ => none

/-- A connection in the middle of a step, with its signals so far. -/
structure Turn (ι : Type) where
  link : Connection
  signals : List (Signal ι)

variable {ι : Type}

/-- Raises the flag that no callback runs any more: closing begins with that. -/
def raise (c : Connection) : Connection := { c with closed := true }

/-- Shows that the connection is closed: closing ends with that. -/
def conclude (c : Connection) : Connection := { c with state := .closed }

/-- Closes a connection, with nobody in between; it may be closed already. -/
def shut (c : Connection) : Connection := if c.closed then c else c.raise.conclude

namespace Turn

/-- A step begins. -/
def of (c : Connection) : Turn ι := ⟨c, []⟩

/-- Goes on with something. -/
def proceed (t : Turn ι) (a : Activity) : Turn ι := { t with link := { t.link with activity := a } }

/-- Runs a callback, from inside which the handler may close the
connection. -/
def tell (p : Plan ι) (t : Turn ι) (c : Callback ι) : Turn ι :=
  let called := { t.link with called := t.link.called + 1 }
  ⟨if p.closesOn t.link.called c then called.shut else called, t.signals ++ [.call c]⟩

/-- Runs a callback on behalf of an epoch, unless the connection is closed
or the epoch is over. -/
def deliver (p : Plan ι) (t : Turn ι) (epoch : Nat) (c : Callback ι) : Turn ι :=
  if t.link.closed || t.link.epoch != epoch then t else tell p t c

/-- Enters a state and tells the handler, unless the connection is
closed. -/
def enter (p : Plan ι) (t : Turn ι) (s : State) (epoch : Nat) : Turn ι :=
  if t.link.closed then t
  else deliver p { t with link := { t.link with state := s } } epoch (.state s epoch)

/-- Gives up: the last state, then the reason. -/
def fail (p : Plan ι) (t : Turn ι) (f : Fault) : Turn ι :=
  let epoch := t.link.epoch
  let t := deliver p (enter p t .closed epoch) epoch (.terminal f)
  { t with link := { t.link with closed := true, activity := .finished } }

/-- One more address has been asked for. -/
def count (t : Turn ι) : Turn ι :=
  { t with link := { t.link with attempts := t.link.attempts + 1 } }

/-- Dials the next address. -/
def attempt (p : Plan ι) (now : Nat) (t : Turn ι) : Turn ι :=
  match p.address t.link.attempts with
  | .error f => fail p t.count f
  | .ok u =>
    let deadline := now + p.policy.heartbeatTimeout.millis
    proceed ⟨t.count.link, t.signals ++ [.dial u]⟩ (.dialing deadline)

/-- A socket is lost, or did not open. -/
def lose (p : Plan ι) (now : Nat) (t : Turn ι) (f : Fault) : Turn ι :=
  if p.policy.autoReconnect then
    proceed (enter p t .reconnecting t.link.epoch)
      (.resting (now + p.policy.reconnectDelay.millis))
  else fail p t f

/-- The epoch of a socket that opens: each one after the first begins a new
one. -/
def advance (t : Turn ι) : Turn ι :=
  let epoch := if t.link.opened then t.link.epoch + 1 else t.link.epoch
  { t with link := { t.link with epoch := epoch, opened := true } }

/-- A socket has opened. -/
def greet (p : Plan ι) (now : Nat) (t : Turn ι) : Turn ι :=
  let t := t.advance
  proceed (enter p t .live t.link.epoch) (.listening (now + p.policy.heartbeatTimeout.millis))

/-- Something was heard on the socket of an epoch. -/
def hear (p : Plan ι) (now : Nat) (t : Turn ι) (epoch : Nat) : Frame → Turn ι
  | .close => lose p now t (.transport "closed by remote host")
  | .ping =>
    deliver p (proceed t (.listening (now + p.policy.heartbeatTimeout.millis))) epoch .heartbeat
  | .text s =>
    let t := proceed t (.listening (now + p.policy.heartbeatTimeout.millis))
    match Payload.decode p.read s with
    | .ok .heartbeat => deliver p t epoch .heartbeat
    | .ok (.results batch) => deliver p t epoch (.data batch)
    | .error _ => t

/-- The time a connection waits for has come. -/
def wake (p : Plan ι) (now : Nat) (t : Turn ι) : Turn ι :=
  match t.link.activity with
  | .dialing deadline =>
    if deadline ≤ now then lose p now t (.silence p.policy.heartbeatTimeout) else t
  | .listening deadline =>
    if deadline ≤ now then lose p now t (.silence p.policy.heartbeatTimeout) else t
  | .resting time => if time ≤ now then attempt p now t else t
  | _ => t

/-- One stimulus. Those that do not fit what the connection is doing are
ignored. -/
def take (p : Plan ι) (now : Nat) (t : Turn ι) (s : Stimulus) : Turn ι :=
  match s, t.link.activity with
  | .start, .fresh => attempt p now (enter p t .connecting 0)
  | .dialed (.ok _), .dialing _ => greet p now t
  | .dialed (.error f), .dialing _ => lose p now t f
  | .frame epoch f, .listening _ => if epoch = t.link.epoch then hear p now t epoch f else t
  | .lost epoch f, .listening _ => if epoch = t.link.epoch then lose p now t f else t
  | .alarm, _ => wake p now t
  | .close, _ => { t with link := t.link.shut }
  | .leave, a => if t.link.closed && a.alarm?.isSome then proceed t .finished else t
  | _, _ => t

end Turn

/-- **One step**: the connection after a stimulus at a time, and what it
does. -/
def step (p : Plan ι) (now : Nat) (c : Connection) (s : Stimulus) : Connection × List (Signal ι) :=
  let t := (Turn.of c).take p now s
  (t.link, t.signals)

end Connection

end Telemetry
