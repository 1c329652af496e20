import Telemetry.Etl.Stats
import Telemetry.Proofs.Json.Shape
/-!
# Etl — statistics that are sent

Every task a server can tell of is read from what is written of it
(`Task.Exact.carries`), level by level: the steps of a run, its counters, the run,
the runs of a transformation, the transformations of a task. The order in which
the fields are written is not the one in which they are held and read.
-/

namespace Telemetry

namespace Etl

open Json

/-! ## What can be sent -/

/-- Counters of 64 bits, in the order of their names. -/
structure Counters (counters : List (String × Int)) : Prop where
  ascending : Ascending counters
  fits : ∀ c ∈ counters, IntKind.i64.Fits c.2

/-- A step of which every duration is read back. -/
inductive Operation.Exact : Operation → Prop where
  | mk {name : String} {duration : Binary64} {operations : List Operation}
    (duration_rereads : Rereads duration) (inner : ∀ o ∈ operations, o.Exact) :
    Exact (.mk name duration operations)

/-- A run with integers of 64 bits, and durations that are read back. -/
structure Stats.Exact (s : Stats) : Prop where
  id : IntKind.i64.Fits s.id
  duration : Rereads s.durationInMs
  extracted : Counters s.extractedItems
  transformed : Counters s.transformedItems
  loaded : IntKind.i64.Fits s.loadedItems
  errors : IntKind.i64.Fits s.transformationErrors
  details : ∀ o ∈ s.details, o.Exact

/-- **A task with integers of 64 bits**, and durations that are read back. -/
structure Task.Exact (t : Task) : Prop where
  id : IntKind.i64.Fits t.id
  runs : ∀ p ∈ t.processes, ∀ s ∈ p.runs, s.Exact

/-! ## Counters -/

theorem exact_countersToJson {counters : List (String × Int)} (h : Counters counters) :
    (countersToJson counters).Exact :=
  .object fun f hf => by
    obtain ⟨c, hc, rfl⟩ := List.mem_map.1 hf
    exact .i64 (h.fits c hc)

theorem held_countersToJson {counters : List (String × Int)} (h : Counters counters) :
    (countersToJson counters).held = countersToJson counters := by
  have hfields : ∀ cs : List (String × Int),
      heldFields (cs.map fun c => (c.1, Value.int c.2)) = cs.map fun c => (c.1, Value.int c.2) := by
    intro cs
    induction cs with
    | nil => rfl
    | cons c rest ih => rw [List.map_cons, heldFields, ih, Value.held_int]
  rw [countersToJson, Value.held_object, hfields]
  exact ofFields_of_ascending (List.pairwise_map.2 h.ascending)

theorem readMap_countersToJson {counters : List (String × Int)} (h : Counters counters) :
    (countersToJson counters).held.readMap (Value.readInt .i64) = .ok counters := by
  rw [held_countersToJson h]
  exact Value.readMap_object fun c hc => Value.readInt_int (h.fits c hc)

/-! ## Steps -/

theorem serializeAll_eq_map (record : List (String × Value) → Value) (operations : List Operation) :
    Operation.serializeAll record operations = operations.map (Operation.serialize record) := by
  induction operations with
  | nil => rfl
  | cons o rest ih => rw [Operation.serializeAll, ih, List.map_cons]

theorem readAll_eq_mapM (vs : List Value) : Operation.readAll vs = vs.mapM Operation.read := by
  induction vs with
  | nil => rfl
  | cons v rest ih => rw [Operation.readAll, ih, List.mapM_cons]

/-- **A step is carried**, with the steps inside it. -/
theorem Operation.Exact.carries {o : Operation} (h : o.Exact) :
    Carries Operation.read (o.serialize .object) o := by
  induction h with
  | @mk name duration operations hduration _ ih =>
    have hinner : Operation.readInner
        (.list (operations.map fun o => (o.serialize .object).held)) = .ok operations := by
      rw [Operation.readInner, readAll_eq_mapM]
      exact Value.mapM_eq_ok fun o ho => (ih o ho).read_held
    refine ⟨.object ?_, ?_⟩
    · simp only [serializeAll_eq_map, List.forall_mem_cons, List.not_mem_nil, false_implies,
        implies_true, and_true]
      exact ⟨.text name, .float hduration, .map fun o ho => (ih o ho).exact⟩
    · simp [Operation.serialize, serializeAll_eq_map, heldFields, Value.ofFields, insertField,
        precedes, Operation.read, Operation.readFields, hinner, Operation.Draft.blank,
        Operation.outline, Outline.finishObject, Function.comp_def]

/-- The steps of a run, if there are any. -/
theorem readOption_details {o : Option Operation} (h : ∀ a ∈ o, a.Exact) :
    Value.readOption Operation.read
      (.ofOption (fun a => (a.serialize .object).held) o) = .ok o :=
  Value.readOption_ofOption (fun a ha => (h a ha).carries.read_held) fun a ha => by
    cases a
    cases ha

/-! ## Runs and what they belong to -/

theorem Stats.Exact.carries {s : Stats} (h : s.Exact) :
    Carries Stats.read (s.serialize .object) s := by
  refine ⟨.object ?_, ?_⟩
  · simp only [List.forall_mem_cons, List.not_mem_nil, false_implies, implies_true, and_true]
    exact ⟨.i64 h.id, .text s.started, .ofOption fun _ _ => .text _, .float h.duration,
      exact_countersToJson h.extracted, exact_countersToJson h.transformed, .i64 h.loaded,
      .i64 h.errors, .ofOption fun _ _ => .bool _, .ofOption fun _ _ => .text _,
      .ofOption fun _ _ => .text _, .ofOption fun o ho => (h.details o ho).carries.exact⟩
  · simp [Stats.serialize, heldFields, Value.ofFields, insertField, precedes, Stats.read,
      Value.readRecord, Stats.shape, Stats.Draft.set, Outline.finishObject, Value.readInt_int h.id,
      Value.readInt_int h.loaded, Value.readInt_int h.errors, readMap_countersToJson h.extracted,
      readMap_countersToJson h.transformed, readOption_details h.details]

theorem Process.carries {p : Process} (h : ∀ s ∈ p.runs, s.Exact) :
    Carries Process.read (p.serialize .object) p := by
  have hruns : Value.readList Stats.read
      (.list (p.runs.map fun s => (s.serialize .object).held)) = .ok p.runs :=
    Value.readList_list fun s hs => (h s hs).carries.read_held
  refine ⟨.object ?_, ?_⟩
  · simp only [List.forall_mem_cons, List.not_mem_nil, false_implies, implies_true, and_true]
    exact ⟨.text p.transformation, .map fun s hs => (h s hs).carries.exact⟩
  · simp [Process.serialize, heldFields, Value.ofFields, insertField, precedes, Process.read,
      Value.readRecord, Process.shape, Outline.finishObject, Function.comp_def, hruns]

/-- **A task is carried.** -/
theorem Task.Exact.carries {t : Task} (h : t.Exact) :
    Carries Task.read (t.serialize .object) t := by
  have hprocesses : Value.readList Process.read
      (.list (t.processes.map fun p => (p.serialize .object).held)) = .ok t.processes :=
    Value.readList_list fun p hp => (Process.carries (h.runs p hp)).read_held
  refine ⟨.object ?_, ?_⟩
  · simp only [List.forall_mem_cons, List.not_mem_nil, false_implies, implies_true, and_true]
    exact ⟨.i64 h.id, .text t.name, .text t.kind, .ofOption fun _ _ => .text _,
      .map fun p hp => (Process.carries (h.runs p hp)).exact⟩
  · simp [Task.serialize, heldFields, Value.ofFields, insertField, precedes, Task.read,
      Value.readRecord, Task.shape, Outline.finishObject, Function.comp_def,
      Value.readInt_int h.id, hprocesses]

end Etl

end Telemetry
