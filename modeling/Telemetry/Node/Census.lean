import Telemetry.Node.Status
import Telemetry.Overview
/-!
# Node — the census of a cluster

How many sources are online, offline and disabled. A source counts by
what it says about itself: it is offline if it failed or does not mention
itself, and does not count before it has reported.
-/

namespace Telemetry

namespace Node

/-- Counts of sources by condition. -/
structure Census where
  online : Nat
  offline : Nat
  disabled : Nat
  deriving DecidableEq, Repr

/-- The condition a source counts with. -/
def ownCondition (l : Location) : Slot Status → Option Condition
  | .pending => none
  | .noData _ => some .offline
  | .rows rows =>
    match rows.find? fun s => s.nodeTag == l.nodeTag with
    | some s => some s.condition
    | none => some .offline

namespace Census

/-- The census of an overview. -/
def ofOverview (o : Overview Status) : Census :=
  let conditions := o.sources.filterMap fun s => ownCondition s.1 s.2
  ⟨conditions.count .online, conditions.count .offline, conditions.count .disabled⟩

/-- The number of sources counted. -/
def total (c : Census) : Nat := c.online + c.offline + c.disabled

/-- The census in words. -/
def line (c : Census) : String :=
  toString c.online ++ " online, " ++ toString c.offline ++ " offline, " ++
    toString c.disabled ++ " disabled"

end Census

end Node

end Telemetry
