import Telemetry.Aggregate.Basic
import Telemetry.Connection.Machine
/-!
# Aggregate — connected sources

An aggregate together with the connections that feed it, one for each
source. Connecting again opens new connections and closes those before;
a closed connection has no say any more, so each source hears one
connection at a time.
-/

namespace Telemetry

namespace Aggregate

variable {ι τ ρ ω : Type}

/-- A connection and the source it feeds. -/
structure Link where
  source : Nat
  connection : Connection

/-- An aggregate, all connections it ever had, and where the current ones
begin. -/
structure Live (ι τ ρ : Type) where
  board : Aggregate ι τ ρ
  links : List Link
  first : Nat

/-- What is fixed about an aggregate: how batches are merged and shown,
and how each source is connected. -/
structure Setting (ι τ ρ ω : Type) where
  merge : Merge ι τ ω
  rows : τ → List ρ
  plan : Location → Connection.Plan ι

namespace Live

/-- Sources without connections. -/
def fresh (s : Setting ι τ ρ ω) (locations : List Location) : Live ι τ ρ :=
  ⟨Aggregate.fresh s.merge locations, [], 0⟩

/-- The current connections, in the order of the sources. -/
def handles (l : Live ι τ ρ) : List Link := l.links.drop l.first

/-- What a callback does to its source. -/
def eventOf (source : Nat) : Connection.Callback ι → Option (Event ι)
  | .data batch => some (.gate source (.push batch))
  | .heartbeat => some (.gate source .heartbeat)
  | .terminal f => some (.failed source f.message)
  | .state _ _ => none

/-- What happens to connected sources. -/
inductive Event (ι : Type) where
  /-- Something other than a connection moves the sources. -/
  | board (e : Aggregate.Event ι)
  /-- A connection gets a stimulus. -/
  | stimulus (link : Nat) (s : Connection.Stimulus)
  /-- New connections are opened, without closing any. -/
  | openLinks
  /-- All connections but the newest are closed. -/
  | dropOld

/-- What comes of an event: overviews to show and addresses to dial. -/
structure Outcome (ι τ ρ : Type) where
  live : Live ι τ ρ
  shown : List (Overview ρ)
  dialed : List Url

/-- The plan of the connection of a source. -/
def planOf (s : Setting ι τ ρ ω) (l : Live ι τ ρ) (source : Nat) : Option (Connection.Plan ι) :=
  (l.board.sources[source]?).map fun x => s.plan x.location

/-- Passes a stimulus to a connection and its callbacks to the source. -/
def stimulate (s : Setting ι τ ρ ω) (now : Nat) (l : Live ι τ ρ) (link : Nat)
    (x : Connection.Stimulus) : Outcome ι τ ρ :=
  match l.links[link]? with
  | none => ⟨l, [], []⟩
  | some k =>
    match planOf s l k.source with
    | none => ⟨l, [], []⟩
    | some p =>
      let (c, signals) := k.connection.step p now x
      let events := (Connection.calls signals).filterMap (eventOf k.source)
      let (board, shown) := l.board.steps s.merge s.rows events
      let links := l.links.set link { k with connection := c }
      ⟨{ l with board := board, links := links }, shown, Connection.dials signals⟩

/-- Closes the connections at the front of a list. -/
def shutFront (links : List Link) (n : Nat) : List Link :=
  ((links.take n).map fun k => { k with connection := k.connection.shut }) ++ links.drop n

/-- One event at a time. -/
def step (s : Setting ι τ ρ ω) (now : Nat) (l : Live ι τ ρ) : Event ι → Outcome ι τ ρ
  | .board e =>
    let (board, shown) := l.board.step s.merge s.rows e
    ⟨{ l with board := board }, shown.toList, []⟩
  | .stimulus link x => stimulate s now l link x
  | .openLinks =>
    let new := (List.range l.board.sources.length).map fun i => ⟨i, Connection.fresh⟩
    ⟨{ l with links := l.links ++ new, first := l.links.length }, [], []⟩
  | .dropOld => ⟨{ l with links := shutFront l.links l.first }, [], []⟩

/-- Events one after the other. -/
def steps (s : Setting ι τ ρ ω) (now : Nat) (l : Live ι τ ρ) : List (Event ι) → Outcome ι τ ρ
  | [] => ⟨l, [], []⟩
  | e :: rest =>
    let first := l.step s now e
    let others := steps s now first.live rest
    ⟨others.live, first.shown ++ others.shown, first.dialed ++ others.dialed⟩

/-- **Connecting**: failures are forgotten, new connections opened, and
the old ones closed, in this order. -/
def connect : List (Event ι) := [.board .renew, .openLinks, .dropOld]

/-- Closes every current connection. -/
def closeAll (l : Live ι τ ρ) : List (Event ι) :=
  (List.range l.links.length).map fun i => .stimulus i .close

end Live

end Aggregate

end Telemetry
