import Telemetry.Json.Value
/-!
# Json — writing

The compact text of a value. Only what must be escaped in a string is:
quotes, backslashes and the controls below U+0020, five of them by a
letter and the others by four hexadecimal digits.
-/

namespace Telemetry

namespace Json

/-- One character inside a string literal. -/
def writeChar (c : Char) : List Char :=
  if c = '"' then ['\\', '"']
  else if c = '\\' then ['\\', '\\']
  else if c = '\x08' then ['\\', 'b']
  else if c = '\x0c' then ['\\', 'f']
  else if c = '\n' then ['\\', 'n']
  else if c = '\r' then ['\\', 'r']
  else if c = '\t' then ['\\', 't']
  else if c.toNat < 0x20 then
    ['\\', 'u', '0', '0', Text.hexDigit (c.toNat / 16), Text.hexDigit (c.toNat % 16)]
  else [c]

/-- A string literal. -/
def writeText (s : String) : List Char := '"' :: s.toList.flatMap writeChar ++ ['"']

/-- An integer. -/
def writeInt (n : Int) : List Char :=
  (if n < 0 then ['-'] else []) ++ Nat.toDigits 10 n.natAbs

mutual

/-- The text of a value. -/
def Value.write : Value → List Char
  | .null => ['n', 'u', 'l', 'l']
  | .bool true => ['t', 'r', 'u', 'e']
  | .bool false => ['f', 'a', 'l', 's', 'e']
  | .int n => writeInt n
  | .float x => numberStyle.render x
  | .text s => writeText s
  | .list items => '[' :: writeItems items
  | .object fields => '\x7b' :: writeFields fields

/-- The items of a list and its closing bracket. -/
def writeItems : List Value → List Char
  | [] => [']']
  | v :: rest => v.write ++ writeMoreItems rest

/-- Items after the first. -/
def writeMoreItems : List Value → List Char
  | [] => [']']
  | v :: rest => ',' :: v.write ++ writeMoreItems rest

/-- The fields of an object and its closing brace. -/
def writeFields : List (String × Value) → List Char
  | [] => ['\x7d']
  | (k, v) :: rest => writeText k ++ ':' :: v.write ++ writeMoreFields rest

/-- Fields after the first. -/
def writeMoreFields : List (String × Value) → List Char
  | [] => ['\x7d']
  | (k, v) :: rest => ',' :: writeText k ++ ':' :: v.write ++ writeMoreFields rest

end

/-- The text of a value, as a string. -/
def Value.toText (v : Value) : String := String.ofList v.write

/-- The value of an optional part: null where there is none. -/
def Value.ofOption {α : Type} (f : α → Value) : Option α → Value
  | none => .null
  | some a => f a

end Json

end Telemetry
