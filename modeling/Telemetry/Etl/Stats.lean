import Telemetry.Json.Shape
import Telemetry.Json.Writer
/-!
# Etl — performance statistics

What a server tells about its ETL work: a batch lists tasks, a task its
transformations, a transformation the records of its runs. A record that
is still running is sent again under its number, with fresher counters,
until it is complete.

Each type comes with how it is read and how it is written.
-/

namespace Telemetry

namespace Etl

open Json

/-- A timed step of a run, with the steps inside it. -/
inductive Operation where
  | mk (name : String) (durationInMs : Binary64) (operations : List Operation)
  deriving Inhabited

mutual

/-- Equality of operations; durations are compared as numbers. -/
def Operation.beq : Operation → Operation → Bool
  | .mk n d os, .mk n' d' os' => n == n' && d == d' && Operation.beqList os os'

/-- Equality of lists of operations. -/
def Operation.beqList : List Operation → List Operation → Bool
  | [], [] => true
  | o :: os, o' :: os' => o.beq o' && Operation.beqList os os'
  | _, _ => false

end

instance : BEq Operation := ⟨Operation.beq⟩

/-- One run of a transformation. -/
structure Stats where
  id : Int
  started : String
  completed : Option String
  durationInMs : Binary64
  extractedItems : List (String × Int)
  transformedItems : List (String × Int)
  loadedItems : Int
  transformationErrors : Int
  successfullyLoaded : Option Bool
  transformationCompleteReason : Option String
  stopReason : Option String
  details : Option Operation
  deriving BEq, Inhabited

/-- The runs of one transformation. -/
structure Process where
  transformation : String
  runs : List Stats

/-- A task with its transformations. -/
structure Task where
  id : Int
  name : String
  kind : String
  subKind : Option String
  processes : List Process

/-! ## Reading -/

/-- A read operation's parts, as far as they are known. -/
structure Operation.Draft where
  name : Option String
  durationInMs : Binary64
  operations : List Operation

/-- Nothing read yet. -/
def Operation.Draft.blank : Operation.Draft := ⟨none, .zero, []⟩

/-- An operation needs a name. -/
def Operation.outline : Outline Operation.Draft Operation where
  name := "EtlPerformanceOperation"
  fields := ["Name", "DurationInMs", "Operations"]
  finish := fun d => match d.name with
    | some name => .ok (.mk name d.durationInMs d.operations)
    | none => .error "Name"

mutual

/-- Reads an operation. -/
def Operation.read : Value → Except ShapeError Operation
  | .object fields => do
    Operation.outline.finishObject (← Operation.readFields .blank fields)
  | .list [] => Operation.outline.finishList .blank
  | .list [name] => do
    Operation.outline.finishList { Operation.Draft.blank with name := some (← name.readText) }
  | .list [name, duration] => do
    Operation.outline.finishList ⟨some (← name.readText), ← duration.readFloat, []⟩
  | .list (name :: duration :: inner :: rest) => do
    let draft : Operation.Draft :=
      ⟨some (← name.readText), ← duration.readFloat, ← Operation.readInner inner⟩
    let o ← Operation.outline.finishList draft
    if rest.isEmpty then return o
    else .error (.invalidLength (rest.length + 3) "fewer elements in array")
  | v => v.mismatch Operation.outline.title

/-- Reads the fields of an operation, in the order of their keys. -/
def Operation.readFields (draft : Operation.Draft) :
    List (String × Value) → Except ShapeError Operation.Draft
  | [] => .ok draft
  | (key, v) :: rest => do
    let draft ← match key with
      | "Name" => do pure { draft with name := some (← v.readText) }
      | "DurationInMs" => do pure { draft with durationInMs := ← v.readFloat }
      | "Operations" => do pure { draft with operations := ← Operation.readInner v }
      | _ => pure draft
    Operation.readFields draft rest

/-- Reads the steps inside an operation. -/
def Operation.readInner : Value → Except ShapeError (List Operation)
  | .list items => Operation.readAll items
  | v => v.mismatch "a sequence"

/-- Reads operations one by one. -/
def Operation.readAll : List Value → Except ShapeError (List Operation)
  | [] => .ok []
  | v :: rest => do
    let o ← Operation.read v
    return o :: (← Operation.readAll rest)

end

/-- A run's parts, as far as they are known. -/
structure Stats.Draft where
  id : Option Int
  started : Option String
  others : Stats

/-- Reads one part of a run. -/
def Stats.Draft.set (d : Stats.Draft) (key : String) (v : Value) : Except ShapeError Stats.Draft :=
  let more (s : Stats) : Except ShapeError Stats.Draft := .ok { d with others := s }
  let o := d.others
  match key with
  | "Id" => do return { d with id := some (← v.readInt .i64) }
  | "Started" => do return { d with started := some (← v.readText) }
  | "Completed" => do more { o with completed := ← v.readOption Value.readText }
  | "DurationInMs" => do more { o with durationInMs := ← v.readFloat }
  | "NumberOfExtractedItems" => do
    more { o with extractedItems := ← v.readMap (Value.readInt .i64) }
  | "NumberOfTransformedItems" => do
    more { o with transformedItems := ← v.readMap (Value.readInt .i64) }
  | "NumberOfLoadedItems" => do more { o with loadedItems := ← v.readInt .i64 }
  | "TransformationErrorCount" => do more { o with transformationErrors := ← v.readInt .i64 }
  | "SuccessfullyLoaded" => do more { o with successfullyLoaded := ← v.readOption Value.readBool }
  | "BatchTransformationCompleteReason" => do
    more { o with transformationCompleteReason := ← v.readOption Value.readText }
  | "BatchStopReason" => do more { o with stopReason := ← v.readOption Value.readText }
  | "Details" => do more { o with details := ← v.readOption Operation.read }
  | _ => .ok d

/-- How a run is read. -/
def Stats.shape : Shape Value ShapeError Stats.Draft Stats where
  name := "EtlPerformanceStats"
  fields := ["Id", "Started", "Completed", "DurationInMs", "NumberOfExtractedItems",
    "NumberOfTransformedItems", "NumberOfLoadedItems", "TransformationErrorCount",
    "SuccessfullyLoaded", "BatchTransformationCompleteReason", "BatchStopReason", "Details"]
  blank := ⟨none, none, ⟨0, "", none, .zero, [], [], 0, 0, none, none, none, none⟩⟩
  set := Stats.Draft.set
  finish := fun d => match d.id, d.started with
    | none, _ => .error "Id"
    | _, none => .error "Started"
    | some id, some started => .ok { d.others with id := id, started := started }

/-- Reads a run. -/
def Stats.read (v : Value) : Except ShapeError Stats := v.readRecord shape

/-- How a transformation is read. -/
def Process.shape : Shape Value ShapeError (Option String × List Stats) Process where
  name := "EtlProcessPerformanceStats"
  fields := ["TransformationName", "Performance"]
  blank := (none, [])
  set := fun d key v => match key with
    | "TransformationName" => do return (some (← v.readText), d.2)
    | "Performance" => do return (d.1, ← v.readList Stats.read)
    | _ => .ok d
  finish := fun d => match d.1 with
    | some name => .ok ⟨name, d.2⟩
    | none => .error "TransformationName"

/-- Reads a transformation. -/
def Process.read (v : Value) : Except ShapeError Process := v.readRecord shape

/-- A task's parts, as far as they are known. -/
structure Task.Draft where
  name : Option String
  kind : Option String
  id : Int
  subKind : Option String
  processes : List Process

/-- How a task is read. -/
def Task.shape : Shape Value ShapeError Task.Draft Task where
  name := "EtlTaskPerformanceStats"
  fields := ["TaskId", "TaskName", "EtlType", "EtlSubType", "Stats"]
  blank := ⟨none, none, 0, none, []⟩
  set := fun d key v => match key with
    | "TaskId" => do return { d with id := ← v.readInt .i64 }
    | "TaskName" => do return { d with name := some (← v.readText) }
    | "EtlType" => do return { d with kind := some (← v.readText) }
    | "EtlSubType" => do return { d with subKind := ← v.readOption Value.readText }
    | "Stats" => do return { d with processes := ← v.readList Process.read }
    | _ => .ok d
  finish := fun d => match d.name, d.kind with
    | none, _ => .error "TaskName"
    | _, none => .error "EtlType"
    | some name, some kind => .ok ⟨d.id, name, kind, d.subKind, d.processes⟩

/-- Reads a task. -/
def Task.read (v : Value) : Except ShapeError Task := v.readRecord shape

/-! ## Writing -/

section Writing

-- how the fields of a record become a value: as they stand, or in the order in
-- which an object holds them
variable (record : List (String × Value) → Value)

mutual

/-- Writes an operation. -/
def Operation.serialize : Operation → Value
  | .mk name duration operations => record
    [("Name", .text name), ("DurationInMs", .float duration),
      ("Operations", .list (Operation.serializeAll operations))]

/-- Writes operations. -/
def Operation.serializeAll : List Operation → List Value
  | [] => []
  | o :: rest => o.serialize :: Operation.serializeAll rest

end

/-- Writes a map of counters. -/
def countersToJson (counters : List (String × Int)) : Value :=
  .object (counters.map fun c => (c.1, .int c.2))

/-- Writes a run. -/
def Stats.serialize (s : Stats) : Value := record
  [("Id", .int s.id), ("Started", .text s.started), ("Completed", .ofOption .text s.completed),
    ("DurationInMs", .float s.durationInMs),
    ("NumberOfExtractedItems", countersToJson s.extractedItems),
    ("NumberOfTransformedItems", countersToJson s.transformedItems),
    ("NumberOfLoadedItems", .int s.loadedItems),
    ("TransformationErrorCount", .int s.transformationErrors),
    ("SuccessfullyLoaded", .ofOption .bool s.successfullyLoaded),
    ("BatchTransformationCompleteReason", .ofOption .text s.transformationCompleteReason),
    ("BatchStopReason", .ofOption .text s.stopReason),
    ("Details", .ofOption (Operation.serialize record) s.details)]

/-- Writes a transformation. -/
def Process.serialize (p : Process) : Value := record
  [("TransformationName", .text p.transformation),
    ("Performance", .list (p.runs.map (Stats.serialize record)))]

/-- Writes a task. -/
def Task.serialize (t : Task) : Value := record
  [("TaskId", .int t.id), ("TaskName", .text t.name), ("EtlType", .text t.kind),
    ("EtlSubType", .ofOption .text t.subKind),
    ("Stats", .list (t.processes.map (Process.serialize record)))]

end Writing

/-- A run as it is held. -/
def Stats.toJson (s : Stats) : Value := s.serialize .ofFields

/-- A task as it is held. -/
def Task.toJson (t : Task) : Value := t.serialize .ofFields

end Etl

end Telemetry
