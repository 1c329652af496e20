import Telemetry.Json.Shape
import Telemetry.Json.Writer
/-!
# Locations

Which node of a cluster a subscription is for and, where the node holds
shards, which of them. A location is an identity: it keeps apart the
sources of an aggregate, and its query pairs tell the server whom to ask.
-/

namespace Telemetry

/-- A node, or one shard of it. -/
structure Location where
  nodeTag : String
  shardNumber : Option Nat
  deriving DecidableEq, Repr, Hashable, Inhabited

namespace Location

/-- The tag, followed by `$` and the shard if there is one. -/
def display (l : Location) : String :=
  match l.shardNumber with
  | some shard => l.nodeTag ++ "$" ++ toString shard
  | none => l.nodeTag

/-- The query pairs of a location, in the order they are sent. -/
def queryPairs (l : Location) : List (String × String) :=
  ("nodeTag", l.nodeTag) :: (l.shardNumber.map fun n => ("shardNumber", toString n)).toList

/-- A shard comes after none, and shards by their numbers. -/
def shardBefore : Option Nat → Option Nat → Bool
  | none, some _ => true
  | some a, some b => a < b
  | _, none => false

/-- Locations by their tags, then by their shards. -/
def before (a b : Location) : Bool :=
  a.nodeTag < b.nodeTag || (a.nodeTag == b.nodeTag && shardBefore a.shardNumber b.shardNumber)

/-- Locations in ascending order. -/
def sort (ls : List Location) : List Location := ls.mergeSort fun a b => !b.before a

/-- The form that shows the parts of a location by name. -/
def description (l : Location) : String :=
  "Location \x7b node_tag: " ++ Text.quoted l.nodeTag ++ ", shard_number: " ++
    (match l.shardNumber with
      | some n => "Some(" ++ toString n ++ ")"
      | none => "None") ++ " \x7d"

/-- How a location is read. -/
def shape : Json.Shape Json.Document Json.Error (Option String × Option Nat) Location where
  name := "Location"
  fields := ["nodeTag", "shardNumber"]
  blank := (none, none)
  set := fun draft key d => match key with
    | "nodeTag" => do return (some (← d.readText), draft.2)
    | "shardNumber" => do
      return (draft.1, (← d.readOption fun d => d.readInt .u32).map Int.toNat)
    | _ => return draft
  finish := fun draft => match draft.1 with
    | some tag => .ok ⟨tag, draft.2⟩
    | none => .error "nodeTag"

/-- Reads a location from JSON text. -/
def ofText (s : String) : Except Json.Error Location := Json.readText (·.readRecord shape) s

/-- The fields of a location that are written. -/
def toFields (l : Location) : List (String × Json.Value) :=
  ("nodeTag", .text l.nodeTag) ::
    (l.shardNumber.map fun n => ("shardNumber", Json.Value.int n)).toList

/-- The JSON text of a location. -/
def toText (l : Location) : String := (Json.Value.ofFields l.toFields).toText

end Location

end Telemetry
