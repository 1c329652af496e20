import Telemetry.Catalog
import Telemetry.Etl.Record
/-!
# Etl — the tree of records

Tasks, their transformations and the records of these, each level in
order of first arrival. A task is known by its kind, name and sub-kind,
a transformation by its name within the task, a record by its number
within the transformation. Nothing is ever taken out.

A record that comes again takes the place of the one it was before,
unless nothing about the run has changed. A run that started at or
before the cutoff leaves no trace, nor does one with an unreadable stamp,
which is reported; the task and the transformation that came with it are
listed all the same.
-/

namespace Telemetry

namespace Etl

/-- What a task is known by. -/
structure TaskKey where
  kind : String
  name : String
  subKind : String
  deriving DecidableEq, Hashable, Repr

/-- The key of a task; a missing sub-kind counts as an empty one. -/
def Task.key (t : Task) : TaskKey := ⟨t.kind, t.name, t.subKind.getD ""⟩

/-- The records of one transformation. -/
structure Transformation where
  name : String
  records : Array Record

/-- One task and its transformations. -/
structure Group where
  key : TaskKey
  taskId : Int
  transformations : Catalog String Transformation

/-- The tasks of a feed. -/
structure Tree where
  groups : Catalog TaskKey Group

/-- A run that was passed over. -/
structure Skip where
  task : String
  transformation : String
  id : Int
  refusal : StampRefusal

/-- Takes one run into the records of a transformation. -/
def absorbRun (cutoff : Option Time.Instant) (destination : Destination) (task name : String)
    (records : Catalog Int Record) (s : Stats) : Ingestion (Catalog Int Record) Skip :=
  match Record.derive s destination with
  | .error refusal => ⟨records, false, [⟨task, name, s.id, refusal⟩]⟩
  | .ok r =>
    if r.startedAt.past cutoff then
      match records.get? s.id with
      | some held => if held.stats == s then .unchanged records else .moved (records.put s.id r)
      | none => .moved (records.push s.id r)
    else .unchanged records

/-- Takes runs into a transformation. -/
def Transformation.absorb (cutoff : Option Time.Instant) (destination : Destination)
    (task : String) (t : Transformation) (runs : List Stats) : Ingestion Transformation Skip :=
  let absorb := absorbRun cutoff destination task t.name
  (Ingestion.each absorb (.ofArray Record.id t.records) runs).map fun records =>
    ⟨t.name, records.items⟩

/-- Takes a transformation into the group of its task. -/
def Group.absorb (cutoff : Option Time.Instant) (destination : Destination) (g : Group)
    (p : Process) : Ingestion Group Skip :=
  let put (t : Transformation) : Group :=
    { g with transformations := g.transformations.put p.transformation t }
  match g.transformations.get? p.transformation with
  | some t => (t.absorb cutoff destination g.key.name p.runs).map put
  | none =>
    let i := (Transformation.mk p.transformation #[]).absorb cutoff destination g.key.name p.runs
    ⟨put i.tree, true, i.skipped⟩

namespace Tree

/-- No tasks. -/
def empty : Tree := ⟨.empty⟩

/-- Takes a task into the tree. -/
def absorb (cutoff : Option Time.Instant) (tree : Tree) (t : Task) : Ingestion Tree Skip :=
  let destination := Destination.derive t.kind t.subKind
  let put (g : Group) : Tree := ⟨tree.groups.put t.key g⟩
  match tree.groups.get? t.key with
  | some g => (Ingestion.each (Group.absorb cutoff destination) g t.processes).map put
  | none =>
    let i := Ingestion.each (Group.absorb cutoff destination) ⟨t.key, t.id, .empty⟩ t.processes
    ⟨put i.tree, true, i.skipped⟩

/-- The group of a task. -/
def group? (tree : Tree) (k : TaskKey) : Option Group := tree.groups.get? k

/-- How many records the tree holds. -/
def recordCount (tree : Tree) : Nat :=
  (tree.groups.toList.flatMap fun g => g.transformations.toList).foldl
    (fun n t => n + t.records.size) 0

end Tree

/-- The transformation of a name. -/
def Group.transformation? (g : Group) (name : String) : Option Transformation :=
  g.transformations.get? name

/-- One record with where it stands. -/
structure Row where
  task : TaskKey
  transformation : String
  record : Record

/-- The records of the tree in the order they are shown. -/
def Tree.rows (tree : Tree) : List Row :=
  tree.groups.toList.flatMap fun g =>
    g.transformations.toList.flatMap fun t =>
      t.records.toList.map fun r => ⟨g.key, t.name, r⟩

/-- **The merge of ETL statistics** that started after a cutoff. -/
def merge (cutoff : Option Time.Instant) : Merge Task Tree Skip where
  initial := .empty
  ingest := Ingestion.each (Tree.absorb cutoff)

end Etl

end Telemetry
