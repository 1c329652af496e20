import Telemetry.Connection.Line
/-!
# Connection — courses

What becomes of a connection, and all it does, as it is given one stimulus
after the other. A course takes its stimuli as they come, at any times and
in any order, fitting or not.

A wire is a connection at the end of its line, where sockets, readers and
the clock move as they like. What it makes of a moment depends on nobody's
order but theirs.
-/

namespace Telemetry

namespace Connection

variable {ι : Type}

namespace Turn

/-- The callbacks run so far. -/
def told (t : Turn ι) : List (Callback ι) := calls t.signals

/-- The addresses dialed so far. -/
def dialed (t : Turn ι) : List Url := dials t.signals

/-- Adds what a step does to what was done before. -/
def follow (p : Plan ι) (now : Nat) (t : Turn ι) (s : Stimulus) : Turn ι :=
  let (link, signals) := step p now t.link s
  ⟨link, t.signals ++ signals⟩

end Turn

/-- **The course of a connection** that is given stimuli at times. -/
def course (p : Plan ι) (es : List (Nat × Stimulus)) : Turn ι :=
  es.foldl (fun t e => t.follow p e.1 e.2) (.of .fresh)

/-- Whether a connection has nothing left to do at a time but wait for
later alarms, or for others. -/
def settled (c : Connection) (now : Nat) : Bool :=
  c.activity != .fresh && !c.activity.alarm?.any (· ≤ now) && (!c.closed || c.activity == .finished)

/-- **A course that keeps up with the clock**, from a connection at a time:
the clock moves on, and someone closes the connection, only when it has
settled. -/
def prompt (p : Plan ι) : Connection → Nat → List (Nat × Stimulus) → Bool
  | _, _, [] => true
  | c, now, (t, s) :: es =>
    (t == now || now < t && c.settled now) && (!s matches .close || c.closed || c.settled t) &&
      prompt p (step p t c s).1 t es

/-! ## Wires -/

/-- A connection with all it did so far, and its line. -/
structure Wire (ι : Type) where
  turn : Turn ι
  line : Line

/-- What happens along a wire. -/
inductive Happening where
  | start
  /-- A socket did not open. -/
  | refused (f : Fault)
  /-- A socket opens, if the connection waits for one. -/
  | opened
  /-- The socket of a reader yields something. -/
  | yields (reader : Nat) (a : Arrival)
  /-- A reader passes something on. -/
  | passes (reader : Nat)
  /-- The connection takes something from the queue, if it listens. -/
  | takes
  | alarm
  | close
  | leave
  deriving DecidableEq, Repr

namespace Wire

/-- A connection that has not started, and no sockets. -/
def fresh : Wire ι := ⟨.of .fresh, .idle⟩

/-- Passes a stimulus to the connection. -/
def poke (p : Plan ι) (now : Nat) (w : Wire ι) (s : Stimulus) : Wire ι :=
  { w with turn := w.turn.follow p now s }

/-- **What one happening does.** -/
def step (p : Plan ι) (now : Nat) (w : Wire ι) : Happening → Wire ι
  | .start => w.poke p now .start
  | .refused f => w.poke p now (.dialed (.error f))
  | .opened =>
    match w.turn.link.activity with
    | .dialing _ =>
      let w := w.poke p now (.dialed (.ok ()))
      { w with line := w.line.attach w.turn.link.epoch }
    | _ => w
  | .yields i a => { w with line := w.line.receive i a }
  | .passes i => { w with line := (w.line.pass? i).getD w.line }
  | .takes =>
    match w.turn.link.activity, w.line.take? with
    | .listening _, some ((epoch, a), line) => { w with line := line }.poke p now (a.stimulus epoch)
    | _, _ => w
  | .alarm => w.poke p now .alarm
  | .close => w.poke p now .close
  | .leave => w.poke p now .leave

/-- **The run of a wire** through what happens at times. -/
def run (p : Plan ι) (es : List (Nat × Happening)) : Wire ι :=
  es.foldl (fun w e => w.step p e.1 e.2) fresh

end Wire

end Connection

end Telemetry
