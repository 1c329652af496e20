import Telemetry.Json.Shape
import Telemetry.Json.Writer
/-!
# Node — status reports

What a node says about itself or about another node of its cluster: how
a report is read and how it is written.
-/

namespace Telemetry

namespace Node

open Json

/-- Whether a node takes part in its cluster. -/
inductive Condition where
  | online
  | offline
  | disabled
  deriving DecidableEq, Repr

/-- The name of a condition. -/
def Condition.name : Condition → String
  | .online => "Online"
  | .offline => "Offline"
  | .disabled => "Disabled"

/-- The conditions by their names. -/
def Condition.names : List (String × Condition) :=
  [.online, .offline, .disabled].map fun c => (c.name, c)

/-- A report on one node. -/
structure Status where
  nodeTag : String
  nodeUrl : String
  condition : Condition
  serverVersion : Option String
  upTime : Option String
  error : Option String
  deriving DecidableEq, Repr

namespace Status

/-- A report's parts, as far as they are known. -/
structure Draft where
  nodeTag : Option String
  condition : Option Condition
  others : Status

/-- Reads one part of a report. -/
def Draft.set (d : Draft) (key : String) (v : Value) : Except ShapeError Draft :=
  match key with
  | "NodeTag" => do return { d with nodeTag := some (← v.readText) }
  | "NodeUrl" => do return { d with others := { d.others with nodeUrl := ← v.readText } }
  | "State" => do return { d with condition := some (← v.readName Condition.names) }
  | "ServerVersion" => do
    return { d with others := { d.others with serverVersion := ← v.readOption Value.readText } }
  | "UpTime" => do
    return { d with others := { d.others with upTime := ← v.readOption Value.readText } }
  | "Error" => do
    return { d with others := { d.others with error := ← v.readOption Value.readText } }
  | _ => .ok d

/-- How a report is read. -/
def shape : Shape Value ShapeError Draft Status where
  name := "NodeStatus"
  fields := ["NodeTag", "NodeUrl", "State", "ServerVersion", "UpTime", "Error"]
  blank := ⟨none, none, ⟨"", "", .offline, none, none, none⟩⟩
  set := Draft.set
  finish := fun d => match d.nodeTag, d.condition with
    | none, _ => .error "NodeTag"
    | _, none => .error "State"
    | some tag, some c => .ok { d.others with nodeTag := tag, condition := c }

/-- Reads a report. -/
def read (v : Value) : Except ShapeError Status := v.readRecord shape

/-- Writes a report; `record` says how its fields become a value. -/
def serialize (record : List (String × Value) → Value) (s : Status) : Value := record
  [("NodeTag", .text s.nodeTag), ("NodeUrl", .text s.nodeUrl), ("State", .text s.condition.name),
    ("ServerVersion", .ofOption .text s.serverVersion), ("UpTime", .ofOption .text s.upTime),
    ("Error", .ofOption .text s.error)]

/-- A report as it is held. -/
def toJson (s : Status) : Value := s.serialize .ofFields

end Status

end Node

end Telemetry
