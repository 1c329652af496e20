import Telemetry.Simulation.World
/-!
# Simulation — one connection and its record

A host of a single connection that writes down which callbacks its
handler gets, and when.
-/

namespace Telemetry

namespace Simulation

open Connection

/-- Which callbacks a handler takes. -/
inductive Audience where
  | everything
  /-- All but the states. -/
  | outcomes
  | dataOnly

/-- Whether a handler takes a callback. -/
def Audience.hears {ι : Type} : Audience → Callback ι → Bool
  | .everything, _ => true
  | .outcomes, .state _ _ => false
  | .outcomes, _ => true
  | .dataOnly, .data _ => true
  | .dataOnly, _ => false

/-- A connection and its callbacks so far, the latest last. -/
structure Recorder (ι : Type) where
  link : Connection
  record : List (Nat × Callback ι)

namespace Recorder

variable {ι : Type}

/-- Passes a stimulus to the connection. -/
def poke (p : Plan ι) (now : Nat) (s : Stimulus) (r : Recorder ι) : Recorder ι × List Url :=
  let (link, signals) := step p now r.link s
  (⟨link, r.record ++ (calls signals).map (now, ·)⟩, dials signals)

/-- The host of one connection. -/
def host (p : Plan ι) : Host (Recorder ι) where
  links := fun r => [r.link]
  poke := fun now _ s r => r.poke p now s

/-- A world with a connection that has not started. -/
def world (refusals : Nat) (answering : Bool) : World (Recorder ι) :=
  ⟨0, refusals, answering, [], fun _ => .idle, ⟨.fresh, []⟩⟩

end Recorder

end Simulation

end Telemetry
