import Telemetry.Config.Error
import Telemetry.Text.Blank
import Telemetry.Text.Digits
/-!
# Config — nodes

Which nodes to subscribe to. On a command line a node is written as its
tag, or its tag, a `$` and the number of a shard; in a configuration file
it is an object of the two.
-/

namespace Telemetry

namespace Config

/-- The number of a shard: decimal digits after an optional plus, below
`2 ^ 32`. -/
def readShard (cs : List Char) : Option Nat := (Text.readNatural cs).filter (· < 0x100000000)

/-- **Reads a node from its short form.** -/
def readNode (s : String) : Except Problem Location :=
  let front := s.toList.takeWhile (· != '$')
  let tag := String.ofList (Text.trim front)
  match s.toList.dropWhile (· != '$') with
  | [] => if tag.isEmpty then .error (.emptyTag s) else .ok ⟨tag, none⟩
  | _ :: digits =>
    match readShard digits with
    | none => .error (.badShard s)
    | some n => if tag.isEmpty then .error (.emptyTag s) else .ok ⟨tag, some n⟩

open Json

/-- How a node is read from a file. -/
def nodeShape : Shape Document Json.Error (Option String × Option Nat) Location where
  name := "NodeConfig"
  fields := ["tag", "shard"]
  blank := (none, none)
  set := fun draft key d => match key with
    | "tag" => do return (some (← d.readText), draft.2)
    | "shard" => do return (draft.1, (← d.readOption fun d => d.readInt .u32).map Int.toNat)
    | _ => return draft
  finish := fun draft => match draft.1 with
    | some tag => .ok ⟨tag, draft.2⟩
    | none => .error "tag"

/-- Writes a node; `record` says how its fields become a value. -/
def serializeNode (record : List (String × Value) → Value) (l : Location) : Value :=
  record (("tag", .text l.nodeTag) ::
    (l.shardNumber.map fun n => ("shard", Value.int n)).toList)

end Config

end Telemetry
