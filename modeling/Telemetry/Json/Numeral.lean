import Telemetry.Json.Value
/-!
# Json — numerals

A number as it is written, and the number it stands for. Whole numbers
that fit 64 bits are integers. For all others as many leading digits as
fit 64 bits make a significand, the digits after them only count towards
the scale, and the significand is scaled by a power of ten with one
rounding for each step. A result past the greatest binary64 number is
refused, one below the least is a zero.
-/

namespace Telemetry

namespace Json

/-- A number as it is written: digits before and after the point, and an
exponent with its sign. -/
structure Numeral where
  negative : Bool
  whole : List Nat
  fraction : Option (List Nat)
  /-- The sign (negative or not) and the digits of the exponent. -/
  exponent : Option (Bool × List Nat)
  deriving Repr

namespace Numeral

/-- Appends digits to a significand while it stays below `2 ^ 64`; the
digits that did not fit are left over. -/
def takeDigits (significand : Nat) : List Nat → Nat × List Nat
  | [] => (significand, [])
  | d :: rest =>
    if significand * 10 + d < 0x10000000000000000 then takeDigits (significand * 10 + d) rest
    else (significand, d :: rest)

/-- The nearest binary64 number to a power of ten up to 308. -/
def tenPower (k : Nat) : Binary64 := (Binary64.ofNat? (Nat.pow 10 k)).getD Binary64.zero

/-- A significand times a power of ten. A power past 308 is refused
unless the significand is zero; one below -308 is reached by dividing by
`10 ^ 308` first, and two such divisions leave zero. -/
def scale (significand : Nat) (power : Int) : Option Binary64 := do
  let f ← Binary64.ofNat? significand
  if 308 < power then
    if f.isZero then some f else none
  else if 0 ≤ power then f.mul? (tenPower power.toNat)
  else if -308 ≤ power then f.div? (tenPower (-power).toNat)
  else
    let g ← f.div? (tenPower 308)
    if -616 ≤ power then g.div? (tenPower (-power - 308).toNat) else some Binary64.zero

/-- The value of exponent digits, `none` from `2 ^ 31` on. -/
def exponentValue (ds : List Nat) : Option Nat :=
  let n := ds.foldl (fun n d => n * 10 + d) 0
  if n < 0x80000000 then some n else none

/-- The magnitude of a numeral that is no integer, given the significand
of its whole part and the number of whole digits left over. -/
def magnitude (n : Numeral) (significand extra : Nat) : Option Binary64 :=
  let (significand, unread) := takeDigits significand (n.fraction.getD [])
  let places : Int := (n.fraction.getD []).length - unread.length
  let power : Int := extra - places
  match n.exponent with
  | none => scale significand power
  | some (negative, ds) =>
    match exponentValue ds with
    | some e => scale significand (if negative then power - e else power + e)
    | none => if significand ≠ 0 && !negative then none else some Binary64.zero

/-- **What a numeral stands for**, `none` if it is out of range. Minus
zero is a float, since no integer holds its sign. -/
def value (n : Numeral) : Option Value :=
  let (significand, unread) := takeDigits 0 n.whole
  let signed (x : Binary64) : Value := .float (if n.negative then x.negate else x)
  if unread.isEmpty && n.fraction.isNone && n.exponent.isNone then
    if !n.negative then some (.int significand)
    else if significand = 0 || 0x8000000000000000 < significand then
      (Binary64.ofNat? significand).map signed
    else some (.int (-(significand : Int)))
  else (n.magnitude significand unread.length).map signed

end Numeral

end Json

end Telemetry
