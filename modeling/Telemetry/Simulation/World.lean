import Telemetry.Connection.Line
/-!
# Simulation — a world without a network

Connections run here against a server that is played by hand, on a clock
that only moves when it is told to. Each address dialed is refused, never
answered, or opens a socket whose other end can send, fail and be
dropped. After every move all that can happen at that moment happens;
while the clock advances, alarms go off exactly when they are due.

Whoever owns the connections is a `Host`: it knows what each of them is
doing, and passes stimuli on to them.
-/

namespace Telemetry

namespace Simulation

open Connection

/-- An open socket, seen from the server. -/
structure Socket where
  url : Url
  /-- The connection that dialed it. -/
  link : Nat
  /-- Its reader on the line of that connection. -/
  reader : Nat
  /-- Whether the client reads it. -/
  reading : Bool
  /-- Whether the server holds its end. -/
  held : Bool

/-- Whether the client has left a socket, unless the server has. -/
def Socket.gone? (s : Socket) : Option Bool := if s.held then some (!s.reading) else none

/-- How a host's connections are seen and moved. -/
structure Host (σ : Type) where
  /-- The connections as they are. -/
  links : σ → List Connection
  /-- Passes a stimulus to a connection; the addresses it dials. -/
  poke : Nat → Nat → Stimulus → σ → σ × List Url

/-- A clock, a server and a host. -/
structure World (σ : Type) where
  now : Nat
  /-- How many of the next attempts are refused. -/
  refusals : Nat
  /-- Whether the others are answered at all. -/
  answering : Bool
  sockets : List Socket
  /-- The line of each connection. -/
  lines : Nat → Line
  host : σ

namespace World

variable {σ : Type}

/-- The socket a connection dialed last. -/
def socketOf? (w : World σ) (link : Nat) : Option Nat :=
  (w.sockets.zipIdx.filter fun s => s.1.link == link).getLast?.map Prod.snd

/-- Sets the line of a connection. -/
def setLine (w : World σ) (link : Nat) (l : Line) : World σ :=
  { w with lines := fun k => if k = link then l else w.lines k }

/-- Passes a stimulus on, and has the server answer what is dialed. An
answer may lead to the next attempt only after an alarm, so a connection
dials once at most. -/
def poke (h : Host σ) (w : World σ) (link : Nat) (s : Stimulus) : World σ :=
  let (host, dialed) := h.poke w.now link s w.host
  let w := { w with host := host }
  match dialed with
  | [] => w
  | url :: _ =>
    if !w.answering then w
    else if 0 < w.refusals then
      let refused := Fault.transport "connection refused"
      { w with
        refusals := w.refusals - 1
        host := (h.poke w.now link (.dialed (.error refused)) w.host).1 }
    else
      let opened := (h.poke w.now link (.dialed (.ok ())) w.host).1
      let line := w.lines link
      let epoch := ((h.links opened)[link]?.map Connection.epoch).getD 0
      let socket := ⟨url, link, line.readers.length, true, true⟩
      { w with sockets := w.sockets ++ [socket], host := opened }.setLine link (line.attach epoch)

/-- The reader of the newest socket of a connection passes something on. -/
def read? (w : World σ) (link : Nat) : Option (World σ) :=
  ((w.lines link).pass? ((w.lines link).readers.length - 1)).map (w.setLine link)

/-- What a connection can do at this moment, if anything. One that waits
and is closed does nothing but leave. -/
def move? (h : Host σ) (w : World σ) (link : Nat) (c : Connection) : Option (World σ) :=
  let due := c.activity.alarm?.any (· ≤ w.now)
  if c.closed && c.activity.alarm?.isSome then some (w.poke h link .leave)
  else match c.activity with
    | .fresh => some (w.poke h link .start)
    | .listening _ =>
      match (w.lines link).take? with
      | some ((epoch, arrival), line) =>
        some ((w.setLine link line).poke h link (arrival.stimulus epoch))
      | none => (w.read? link).or (if due then some (w.poke h link .alarm) else none)
    | _ => if due then some (w.poke h link .alarm) else none

/-- The first move any connection can make. -/
def firstMove? (h : Host σ) (w : World σ) : Option (World σ) :=
  (h.links w.host).zipIdx.findSome? fun l => w.move? h l.2 l.1

/-- Makes moves until there are none. -/
def exhaust (h : Host σ) : Nat → World σ → World σ
  | 0, w => w
  | fuel + 1, w =>
    match w.firstMove? h with
    | some w => exhaust h fuel w
    | none => w

/-- A bound on the moves of one moment: each passes on an arrival or takes
one, uses up a refusal, or is one of the few steps of a connection between
two waits. -/
def moves (h : Host σ) (w : World σ) : Nat :=
  let links := (h.links w.host).length
  let unread := (List.range links).foldl (fun n k => n + (w.lines k).unread) 0
  2 * unread + 2 * w.refusals + 8 * links + 8

/-- Whether a connection listens to a socket. -/
def isRead (h : Host σ) (w : World σ) (index : Nat) (s : Socket) : Bool :=
  w.socketOf? s.link == some index &&
    match ((h.links w.host)[s.link]?).map Connection.activity with
    | some (.listening _) => true
    | _ => false

/-- **Lets everything happen that can happen now.** -/
def settle (h : Host σ) (w : World σ) : World σ :=
  let w := exhaust h (w.moves h) w
  { w with sockets := w.sockets.mapIdx fun i s => { s with reading := w.isRead h i s } }

/-- The next alarm up to a time. -/
def nextAlarm? (h : Host σ) (w : World σ) (limit : Nat) : Option Nat :=
  (((h.links w.host).filterMap fun c => c.activity.alarm?).filter (· ≤ limit)).min?

/-- Moves the clock from alarm to alarm up to a time. -/
def advanceTo (h : Host σ) (limit : Nat) : Nat → World σ → World σ
  | 0, w => { w with now := limit }
  | fuel + 1, w =>
    match w.nextAlarm? h limit with
    | some t => advanceTo h limit fuel (settle h { w with now := max w.now t })
    | none => { w with now := limit }

/-- **Moves the clock.** After an alarm has gone off and everything has
settled, the next one is later. -/
def advance (h : Host σ) (w : World σ) (ms : Nat) : World σ :=
  w.advanceTo h (w.now + ms) (ms + 2)

/-! ## The server's side -/

/-- What became of something the server did with a socket. -/
inductive Receipt where
  /-- A frame was sent; whether anyone reads it. -/
  | sent (read : Bool)
  | done
  | dropped
  | noSocket
  deriving DecidableEq, Repr

/-- What the server does with a socket. -/
inductive Deed where
  | send (f : Frame)
  | fail (reason : String)
  | drop

/-- The server does something with a socket. What it sends is read when
the world settles. -/
def serve (w : World σ) (socket : Nat) (d : Deed) : World σ × Receipt :=
  match w.sockets[socket]? with
  | none => (w, .noSocket)
  | some s =>
    if !s.held then (w, .dropped)
    else
      let put (a : Arrival) (held : Bool) : World σ :=
        { w with sockets := w.sockets.set socket { s with held := held } }.setLine s.link
          ((w.lines s.link).receive s.reader a)
      match d with
      | .send f => (if s.reading then put (.frame f) true else w, .sent s.reading)
      | .fail reason => (put (.failed reason) false, .done)
      | .drop => (put .ended false, .done)

end World

end Simulation

end Telemetry
