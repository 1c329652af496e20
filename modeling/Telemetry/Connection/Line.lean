import Telemetry.Connection.Machine
/-!
# Connection — the line

What lies between a connection and its sockets. Every socket has a reader
that passes on what the socket yields, tagged with its epoch, and all
readers of a connection pass to one queue. The connection takes from the
queue while it listens, and at no other time.

A reader stops once it has passed on the loss of its socket. Giving up a
socket stops its reader only in time: until then it may pass on more, and
what it has passed on stays in the queue for the next epoch to find.
-/

namespace Telemetry

namespace Connection

/-- What a socket yields. -/
inductive Arrival where
  | frame (f : Frame)
  | failed (reason : String)
  | ended
  deriving DecidableEq, Repr

/-- What an arrival means to the connection that takes it. -/
def Arrival.stimulus (epoch : Nat) : Arrival → Stimulus
  | .frame .close => .lost epoch (.transport "closed by remote host")
  | .frame f => .frame epoch f
  | .failed reason => .lost epoch (.transport reason)
  | .ended => .lost epoch (.transport "stream ended")

/-- Whether an arrival is the loss of its socket. -/
def Arrival.isLoss : Arrival → Bool
  | .frame .close | .failed _ | .ended => true
  | .frame _ => false

/-- The reader of a socket. -/
structure Reader where
  epoch : Nat
  /-- All that the socket has yielded. -/
  yielded : List Arrival
  /-- How much of it the reader has passed on. -/
  passed : Nat
  deriving DecidableEq, Repr

/-- What a reader passes on next, if anything. -/
def Reader.next? (r : Reader) : Option Arrival :=
  if (r.yielded.take r.passed).any Arrival.isLoss then none else r.yielded[r.passed]?

/-- The readers of a connection in the order in which their sockets
opened, and what they have passed on and nobody has taken. -/
structure Line where
  readers : List Reader
  queue : List (Nat × Arrival)
  deriving DecidableEq, Repr

namespace Line

/-- No sockets yet. -/
def idle : Line := ⟨[], []⟩

/-- A socket opens in an epoch. -/
def attach (l : Line) (epoch : Nat) : Line := { l with readers := l.readers ++ [⟨epoch, [], 0⟩] }

/-- A socket yields something. -/
def receive (l : Line) (i : Nat) (a : Arrival) : Line :=
  { l with readers := l.readers.modify i fun r => { r with yielded := r.yielded ++ [a] } }

/-- A reader passes on what it has next. -/
def pass? (l : Line) (i : Nat) : Option Line :=
  match l.readers[i]? with
  | none => none
  | some r => r.next?.map fun a =>
    ⟨l.readers.set i { r with passed := r.passed + 1 }, l.queue ++ [(r.epoch, a)]⟩

/-- Takes the oldest of what is in the queue. -/
def take? (l : Line) : Option ((Nat × Arrival) × Line) :=
  match l.queue with
  | [] => none
  | item :: rest => some (item, { l with queue := rest })

/-- How much its readers have not passed on. -/
def unread (l : Line) : Nat :=
  l.readers.foldl (fun n r => n + (r.yielded.length - r.passed)) 0

end Line

end Connection

end Telemetry
