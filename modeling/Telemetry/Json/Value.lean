import Telemetry.Number.Shortest
import Telemetry.Text.Quoted
/-!
# Json — values

JSON values as they are held in memory: numbers are integers of at most
64 bits or finite binary64 numbers, and the fields of an object are in
ascending order of their keys, each key once. `Found` names what a value
is when something else was expected there.
-/

namespace Telemetry

namespace Json

/-- A JSON value. -/
inductive Value where
  | null
  | bool (b : Bool)
  | int (n : Int)
  | float (x : Binary64)
  | text (s : String)
  | list (items : List Value)
  | object (fields : List (String × Value))
  deriving Inhabited

/-- The order of keys: that of the first characters in which they differ, and
a key that ends goes before one that goes on. -/
def precedes : List Char → List Char → Bool
  | _, [] => false
  | [], _ :: _ => true
  | c :: cs, d :: ds => if c = d then precedes cs ds else c.toNat < d.toNat

/-- Puts a field into fields that ascend by key, over an earlier field of
the same key. -/
def insertField (key : String) (v : Value) : List (String × Value) → List (String × Value)
  | [] => [(key, v)]
  | (k, w) :: rest =>
    if key = k then (key, v) :: rest
    else if precedes key.toList k.toList then (key, v) :: (k, w) :: rest
    else (k, w) :: insertField key v rest

/-- Fields in the order they were written, as an object: ascending, the
last of equal keys. -/
def Value.ofFields (fields : List (String × Value)) : Value :=
  .object (fields.foldl (fun acc f => insertField f.1 f.2 acc) [])

/-- The value of a key of an object. -/
def Value.field? (v : Value) (key : String) : Option Value :=
  match v with
  | .object fields => fields.lookup key
  | _ => none

/-- Numbers are written with a point while the leading power of ten is
from -5 to 15, and beyond with an exponent of at least two digits. -/
def numberStyle : DecimalStyle := ⟨-5, 15, 2⟩

/-- What stands where something else was expected. -/
inductive Found where
  | null
  | bool (b : Bool)
  | int (n : Int)
  | float (x : Binary64)
  | text (s : String)
  | sequence
  | map

/-- What a value is, for a message. -/
def Value.found : Value → Found
  | .null => .null
  | .bool b => .bool b
  | .int n => .int n
  | .float x => .float x
  | .text s => .text s
  | .list _ => .sequence
  | .object _ => .map

/-- The words for what was found. -/
def Found.message : Found → String
  | .null => "null"
  | .bool b => "boolean `" ++ (if b then "true" else "false") ++ "`"
  | .int n => "integer `" ++ toString n ++ "`"
  | .float x => "floating point `" ++ String.ofList (numberStyle.render x) ++ "`"
  | .text s => "string " ++ Text.quoted s
  | .sequence => "sequence"
  | .map => "map"

end Json

end Telemetry
