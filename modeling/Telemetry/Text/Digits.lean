/-!
# Text — decimal digits

Whole numbers written in decimal digits. Leading zeros say nothing, and a
plus may stand in front where a number stands alone.
-/

namespace Telemetry

namespace Text

/-- The number written by digits. -/
def digitsValue (ds : List Char) : Nat := ds.foldl (fun n c => n * 10 + (c.toNat - 48)) 0

/-- The value of a hexadecimal digit, 0 for any other character. -/
def hexDigitValue (c : Char) : Nat :=
  if c.isDigit then c.toNat - 48
  else if 'a' ≤ c && c ≤ 'f' then c.toNat - 87
  else 0

/-- The number written by hexadecimal digits in lower case. -/
def hexValue (ds : List Char) : Nat := ds.foldl (fun n c => n * 16 + hexDigitValue c) 0

/-- The number written by digits after an optional plus. -/
def readNatural (cs : List Char) : Option Nat :=
  let ds := match cs with
    | '+' :: rest => rest
    | _ => cs
  if !ds.isEmpty && ds.all Char.isDigit then some (digitsValue ds) else none

end Text

end Telemetry
