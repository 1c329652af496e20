import Telemetry.Etl.Destination
import Telemetry.Etl.Stats
import Telemetry.Merge
import Telemetry.Time.Reader
/-!
# Etl — records

A run together with what follows from it: when it started and ended,
whether it failed, and where its task sends data.
-/

namespace Telemetry

namespace Etl

/-- A run with its derived fields. -/
structure Record where
  stats : Stats
  startedAt : Time.Instant
  completedAt : Option Time.Instant
  hasLoadErrors : Bool
  hasTransformErrors : Bool
  destination : Destination

namespace Record

/-- The run's number. -/
def id (r : Record) : Int := r.stats.id

/-- A run is complete once its end is known. -/
def isCompleted (r : Record) : Bool := r.completedAt.isSome

/-- Either the load or the transformation failed. -/
def hasErrors (r : Record) : Bool := r.hasLoadErrors || r.hasTransformErrors

/-- Reads a stamp of a run. -/
def readStamp (field value : String) : Except StampRefusal Time.Instant :=
  match Time.Instant.ofStamp? value with
  | some t => .ok t
  | none => .error ⟨field, value⟩

/-- **Derives a record from a run.** Its stamps have to be readable, the
one of its end only if there is one. -/
def derive (s : Stats) (d : Destination) : Except StampRefusal Record := do
  let startedAt ← readStamp "Started" s.started
  let completedAt ← match s.completed with
    | some value => do pure (some (← readStamp "Completed" value))
    | none => pure none
  return {
    stats := s
    startedAt := startedAt
    completedAt := completedAt
    hasLoadErrors := s.successfullyLoaded == some false
    hasTransformErrors := 0 < s.transformationErrors
    destination := d }

end Record

end Etl

end Telemetry
