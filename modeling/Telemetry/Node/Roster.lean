import Telemetry.Catalog
import Telemetry.Merge
import Telemetry.Node.Status
/-!
# Node — the roster of a cluster

The latest report on each node, in the order the nodes were first heard
of.
-/

namespace Telemetry

namespace Node

/-- The latest report on each node. -/
structure Roster where
  nodes : Catalog String Status

namespace Roster

/-- No reports. -/
def empty : Roster := ⟨.empty⟩

/-- The latest report on a node. -/
def node? (r : Roster) (tag : String) : Option Status := r.nodes.get? tag

/-- The latest reports in order. -/
def rows (r : Roster) : List Status := r.nodes.toList

/-- Takes in a report. -/
def absorb (r : Roster) (s : Status) : Ingestion Roster Empty :=
  match r.nodes.get? s.nodeTag with
  | some held => if held = s then .unchanged r else .moved ⟨r.nodes.put s.nodeTag s⟩
  | none => .moved ⟨r.nodes.push s.nodeTag s⟩

end Roster

/-- **The merge of status reports**: the last one on each node counts. -/
def merge : Merge Status Roster Empty where
  initial := .empty
  ingest := Ingestion.each Roster.absorb

end Node

end Telemetry
