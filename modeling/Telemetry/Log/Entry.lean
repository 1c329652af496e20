import Telemetry.Json.Shape
import Telemetry.Json.Writer
/-!
# Log — entries

One line of a server's log, as the server sends it: how it is read and
how it is written.
-/

namespace Telemetry

namespace Log

open Json

/-- A line of the log. -/
structure Entry where
  time : String
  level : String
  source : String
  logger : String
  message : String
  exception : Option String
  deriving DecidableEq, Repr

namespace Entry

/-- Reads one part of an entry. -/
def set (d : Option String × Entry) (key : String) (v : Value) :
    Except ShapeError (Option String × Entry) :=
  match key with
  | "Time" => do return (some (← v.readText), d.2)
  | "Level" => do return (d.1, { d.2 with level := ← v.readText })
  | "Source" => do return (d.1, { d.2 with source := ← v.readText })
  | "Logger" => do return (d.1, { d.2 with logger := ← v.readText })
  | "Message" => do return (d.1, { d.2 with message := ← v.readText })
  | "Exception" => do return (d.1, { d.2 with exception := ← v.readOption Value.readText })
  | _ => .ok d

/-- How an entry is read; only its time is required. -/
def shape : Shape Value ShapeError (Option String × Entry) Entry where
  name := "LogEntry"
  fields := ["Time", "Level", "Source", "Logger", "Message", "Exception"]
  blank := (none, ⟨"", "", "", "", "", none⟩)
  set := set
  finish := fun d => match d.1 with
    | some time => .ok { d.2 with time := time }
    | none => .error "Time"

/-- Reads an entry. -/
def read (v : Value) : Except ShapeError Entry := v.readRecord shape

/-- Writes an entry; `record` says how its fields become a value. -/
def serialize (record : List (String × Value) → Value) (e : Entry) : Value := record
  [("Time", .text e.time), ("Level", .text e.level), ("Source", .text e.source),
    ("Logger", .text e.logger), ("Message", .text e.message),
    ("Exception", .ofOption .text e.exception)]

/-- An entry as it is held. -/
def toJson (e : Entry) : Value := e.serialize .ofFields

end Entry

end Log

end Telemetry
