import Telemetry.Gate
import Telemetry.Overview
/-!
# Aggregate — many sources side by side

One gate for each location, and next to it what the location shows.
Nothing is merged across sources. Whenever a gate announces its tree, the
rows of its source are shown, unless the source has failed: then the
reason stays until the sources are connected anew.
-/

namespace Telemetry

/-- One source: its gate and what it shows. -/
structure Source (ι τ ρ : Type) where
  location : Location
  gate : Gate ι τ
  slot : Slot ρ
  /-- It has failed and was not connected since. -/
  givenUp : Bool

/-- The sources of a feed, in the order they are shown. -/
structure Aggregate (ι τ ρ : Type) where
  sources : List (Source ι τ ρ)

namespace Aggregate

variable {ι τ ρ ω : Type}

/-- Sources that have shown nothing yet. -/
def fresh (m : Merge ι τ ω) (locations : List Location) : Aggregate ι τ ρ :=
  ⟨locations.map fun l => ⟨l, .fresh m false, .pending, false⟩⟩

/-- What all sources show. -/
def view (a : Aggregate ι τ ρ) : Overview ρ := ⟨a.sources.map fun s => (s.location, s.slot)⟩

/-- The first source of a location. -/
def index? (a : Aggregate ι τ ρ) (l : Location) : Option Nat :=
  a.sources.findIdx? fun s => s.location == l

/-- Whether any gate is shut. -/
def isPaused (a : Aggregate ι τ ρ) : Bool := a.sources.any fun s => s.gate.shut

/-- What happens to the sources. -/
inductive Event (ι : Type) where
  /-- Something is done to one gate. -/
  | gate (index : Nat) (action : Gate.Action ι)
  /-- A source has failed. -/
  | failed (index : Nat) (reason : String)
  /-- All sources are about to be connected. -/
  | renew

/-- Shows rows, unless the source has given up: the source after that, and
whether it shows something new. -/
def Source.show (s : Source ι τ ρ) (rows : List ρ) : Source ι τ ρ × Bool :=
  if s.givenUp then (s, false) else ({ s with slot := .rows rows }, true)

/-- Does something to the gate of a source. -/
def Source.act (m : Merge ι τ ω) (rows : τ → List ρ) (s : Source ι τ ρ) (action : Gate.Action ι) :
    Source ι τ ρ × Bool :=
  let (gate, notice) := s.gate.act m action
  let s := { s with gate := gate }
  match notice with
  | some (.merged tree) => Source.show s (rows tree)
  | _ => (s, false)

/-- Replaces the source at an index. -/
def set (a : Aggregate ι τ ρ) (index : Nat) (s : Source ι τ ρ) : Aggregate ι τ ρ :=
  ⟨a.sources.set index s⟩

/-- **One event**: the sources after it, and the overview if it has to be
shown again. -/
def step (m : Merge ι τ ω) (rows : τ → List ρ) (a : Aggregate ι τ ρ) :
    Event ι → Aggregate ι τ ρ × Option (Overview ρ)
  | .gate index action =>
    match a.sources[index]? with
    | none => (a, none)
    | some s =>
      let (s, shown) := Source.act m rows s action
      let a := a.set index s
      (a, if shown then some a.view else none)
  | .failed index reason =>
    match a.sources[index]? with
    | none => (a, none)
    | some s =>
      let a := a.set index { s with slot := .noData reason, givenUp := true }
      (a, some a.view)
  | .renew => (⟨a.sources.map fun s => { s with givenUp := false }⟩, none)

/-- Events one after the other, with the overviews shown. -/
def steps (m : Merge ι τ ω) (rows : τ → List ρ) (a : Aggregate ι τ ρ) :
    List (Event ι) → Aggregate ι τ ρ × List (Overview ρ)
  | [] => (a, [])
  | e :: rest =>
    let (a, shown) := a.step m rows e
    let (a, later) := steps m rows a rest
    (a, shown.toList ++ later)

/-- Shuts every gate. -/
def pauseAll (a : Aggregate ι τ ρ) : List (Event ι) :=
  (List.range a.sources.length).map fun i => .gate i .pause

/-- Opens every gate. -/
def resumeAll (a : Aggregate ι τ ρ) : List (Event ι) :=
  (List.range a.sources.length).map fun i => .gate i .resume

end Aggregate

end Telemetry
