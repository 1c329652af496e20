import Telemetry.Aggregate.Live
import Telemetry.Simulation.World
/-!
# Simulation — connected sources

A host of all connections of an aggregate that writes down which
overviews were shown, and when.
-/

namespace Telemetry

namespace Simulation

open Aggregate

/-- Connected sources and the overviews shown so far, the latest last. -/
structure Theatre (ι τ ρ : Type) where
  live : Live ι τ ρ
  shown : List (Nat × Overview ρ)

namespace Theatre

variable {ι τ ρ ω : Type}

/-- Sources without connections. -/
def fresh (s : Setting ι τ ρ ω) (locations : List Location) : Theatre ι τ ρ :=
  ⟨.fresh s locations, []⟩

/-- Takes down an outcome. -/
def note (now : Nat) (t : Theatre ι τ ρ) (o : Live.Outcome ι τ ρ) : Theatre ι τ ρ :=
  ⟨o.live, t.shown ++ o.shown.map (now, ·)⟩

/-- The host of the connections. -/
def host (s : Setting ι τ ρ ω) : Host (Theatre ι τ ρ) where
  links := fun t => t.live.links.map Link.connection
  poke := fun now link x t =>
    let o := t.live.stimulate s now link x
    (t.note now o, o.dialed)

/-- Lets events happen at the present time. -/
def perform (s : Setting ι τ ρ ω) (w : World (Theatre ι τ ρ)) (events : List (Live.Event ι)) :
    World (Theatre ι τ ρ) :=
  { w with host := w.host.note w.now (w.host.live.steps s w.now events) }

/-- A world of sources without connections. -/
def world (s : Setting ι τ ρ ω) (locations : List Location) (refusals : Nat) :
    World (Theatre ι τ ρ) :=
  ⟨0, refusals, true, [], fun _ => .idle, fresh s locations⟩

end Theatre

end Simulation

end Telemetry
