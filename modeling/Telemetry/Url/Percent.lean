import Telemetry.Text.Utf8
/-!
# Url — percent encoding

A character that may not stand in a part of a URL is written as its UTF-8
bytes, each as `%` and two hexadecimal digits. Which characters these are
depends on the part; the sets grow from fragments to segments. Characters
beyond ASCII and controls are in every set.
-/

namespace Telemetry

namespace Percent

/-- A hexadecimal digit, upper case. -/
def upperDigit (n : Nat) : Char :=
  if n < 10 then Char.ofNat (0x30 + n) else Char.ofNat (0x37 + n)

/-- A byte as `%` and two digits. -/
def encodeByte (b : UInt8) : List Char :=
  ['%', upperDigit (b.toNat / 16), upperDigit (b.toNat % 16)]

/-- A character as the encoding of its bytes. -/
def encodeChar (c : Char) : List Char := (String.utf8EncodeChar c).flatMap encodeByte

/-- A text with the characters of a set encoded. -/
def encode (set : Char → Bool) (cs : List Char) : List Char :=
  cs.flatMap fun c => if set c then encodeChar c else [c]

/-! ## Sets -/

/-- Controls, and all beyond ASCII. -/
def isControl (c : Char) : Bool := c.toNat < 0x20 || 0x7E < c.toNat

/-- What is encoded in a fragment. -/
def inFragment (c : Char) : Bool := isControl c || [' ', '"', '<', '>', '`'].contains c

/-- What is encoded in a query; the single quote only under the special
schemes. -/
def inQuery (special : Bool) (c : Char) : Bool :=
  isControl c || [' ', '"', '#', '<', '>'].contains c || (special && c == '\'')

/-- What is encoded in a path. -/
def inPath (c : Char) : Bool := inFragment c || ['#', '?', '\x7b', '\x7d'].contains c

/-- What is encoded in a user name or a password. -/
def inUserinfo (c : Char) : Bool :=
  inPath c || ['/', ':', ';', '=', '@', '[', '\\', ']', '^', '|'].contains c

/-- What is encoded in a single segment that is put into a path. -/
def inSegment (special : Bool) (c : Char) : Bool :=
  inPath c || c == '/' || c == '%' || (special && c == '\\')

/-! ## Decoding -/

/-- The value of a hexadecimal digit in either case. -/
def digitValue? (c : UInt8) : Option Nat :=
  if 0x30 ≤ c && c ≤ 0x39 then some (c.toNat - 0x30)
  else if 0x61 ≤ c && c ≤ 0x66 then some (c.toNat - 0x57)
  else if 0x41 ≤ c && c ≤ 0x46 then some (c.toNat - 0x37)
  else none

/-- Bytes with each `%` and two digits read back; any other `%` stands for
itself. -/
def decodeBytes : List UInt8 → List UInt8
  | 0x25 :: a :: b :: rest =>
    match digitValue? a, digitValue? b with
    | some x, some y => UInt8.ofNat (x * 16 + y) :: decodeBytes rest
    | _, _ => 0x25 :: decodeBytes (a :: b :: rest)
  | b :: rest => b :: decodeBytes rest
  | [] => []

/-! ## Forms -/

/-- What a form leaves as it is. -/
def plainInForm (c : Char) : Bool :=
  c.isAlphanum || c == '*' || c == '-' || c == '.' || c == '_'

/-- A text in a form: a blank is written as a plus, and whatever is no
letter, digit or one of `*-._` is encoded. -/
def encodeForm (s : String) : List Char :=
  s.toList.flatMap fun c =>
    if plainInForm c then [c] else if c = ' ' then ['+'] else encodeChar c

end Percent

end Telemetry
