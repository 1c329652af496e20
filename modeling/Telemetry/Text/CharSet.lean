import Telemetry.Text.Digits
import Telemetry.Text.Split
/-!
# Text — sets of characters

Sets of characters as tables write them: code points in hexadecimal, two
of them with a dash between for all from one to the other, and blanks or
line ends in between.
-/

namespace Telemetry

namespace Text

/-- The characters from one code point to another. -/
structure CharRange where
  low : Nat
  high : Nat

/-- A set of characters. -/
abbrev CharSet := Array CharRange

/-- The words of a table. -/
def tableWords (s : String) : List (List Char) :=
  ((splitAt '\n' s.toList).flatMap (splitAt ' ')).filter fun w => !w.isEmpty

/-- The range a word stands for. -/
def CharRange.ofWord (w : List Char) : CharRange :=
  match splitAt '-' w with
  | low :: high :: _ => ⟨hexValue low, hexValue high⟩
  | _ => ⟨hexValue w, hexValue w⟩

/-- Whether a character is in a range. -/
def CharRange.contains (r : CharRange) (c : Char) : Bool := r.low ≤ c.toNat && c.toNat ≤ r.high

/-- The set a table writes. -/
def CharSet.ofTable (s : String) : CharSet := ((tableWords s).map CharRange.ofWord).toArray

/-- Whether a character is in a set. -/
def CharSet.contains (s : CharSet) (c : Char) : Bool := s.any (·.contains c)

end Text

end Telemetry
