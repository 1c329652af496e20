import Telemetry.Number.Binary64
/-!
# Number — shortest decimal text

The shortest decimal that reads back as a given binary64 number. The
reals that round to the number form an interval, whose ends belong to it
when the mantissa is even. For one digit, two digits and so on, the two
neighbours of the number on the grid of that many digits are tried; the
first grid with a hit wins, and of two hits the nearer one, a tie going
to the even digit.

`DecimalStyle` then says where such a decimal is written with a point and
where with an exponent.
-/

namespace Telemetry

/-- A decimal `digits · 10 ^ exponent`. -/
structure Decimal where
  digits : Nat
  exponent : Int
  deriving DecidableEq, Repr

namespace Binary64

/-- The interval of reals that round to a positive number, as fractions
over one power of two: twice the number with half a unit to each side.
Below a power of two the unit to the lower side is half as wide. -/
structure Interval where
  lower : Nat
  value : Nat
  upper : Nat
  /-- The common scale, `2 ^ scale`. -/
  scale : Int
  closed : Bool

/-- The interval of a positive number. -/
def interval (x : Binary64) : Interval :=
  let m := x.mantissa
  let narrow := m == 0x10000000000000 && x.exponent != minExponent
  { lower := if narrow then 4 * m - 1 else 4 * m - 2
    value := 4 * m
    upper := 4 * m + 2
    scale := x.exponent - 2
    closed := m % 2 == 0 }

/-- `a · 2 ^ s` compared with `b · 10 ^ t`, both brought to whole numbers. -/
def compareScaled (a : Nat) (s : Int) (b : Nat) (t : Int) : Ordering :=
  let left := a * Nat.pow 2 s.toNat * Nat.pow 10 (-t).toNat
  let right := b * Nat.pow 10 t.toNat * Nat.pow 2 (-s).toNat
  compare left right

/-- Whether the decimal `d · 10 ^ t` lies in the interval. -/
def Interval.holds (i : Interval) (d : Nat) (t : Int) : Bool :=
  match compareScaled i.lower i.scale d t, compareScaled i.upper i.scale d t with
  | .lt, .gt => true
  | .eq, .gt | .lt, .eq => i.closed
  | _, _ => false

/-- The whole part of `value · 2 ^ scale / 10 ^ t`, and whether the rest
is less than, equal to or more than a half. -/
def Interval.floorAt (i : Interval) (t : Int) : Nat × Ordering :=
  let num := i.value * Nat.pow 2 i.scale.toNat * Nat.pow 10 (-t).toNat
  let den := Nat.pow 10 t.toNat * Nat.pow 2 (-i.scale).toNat
  (num / den, compare (2 * (num % den)) den)

/-- The decimal of the grid `10 ^ t` that reads back, if there is one. -/
def Interval.hit? (i : Interval) (t : Int) : Option Nat :=
  let (low, half) := i.floorAt t
  match i.holds low t && low != 0, i.holds (low + 1) t with
  | true, true =>
    some <| match half with
      | .lt => low
      | .gt => low + 1
      | .eq => if low % 2 = 0 then low else low + 1
  | true, false => some low
  | false, true => some (low + 1)
  | false, false => none

/-- The power of ten of the leading digit, or one less. -/
def leadingPower (x : Binary64) : Int :=
  let bits : Int := (Nat.log2 x.mantissa : Int) + x.exponent
  -- the common logarithm of two, to five places
  (bits * 30103) / 100000

/-- Tries the grids from coarse to fine. The first grid lies above the
leading digit and the eighteenth below it always has a hit. -/
def search (i : Interval) (t : Int) : Nat → Decimal
  | 0 => ⟨i.value, 0⟩
  | fuel + 1 =>
    match i.hit? t with
    | some d => ⟨d, t⟩
    | none => search i (t - 1) fuel

/-- **The shortest decimal that reads back** as the magnitude of a number. -/
def shortest (x : Binary64) : Decimal :=
  if x.mantissa = 0 then ⟨0, 0⟩
  else search x.interval (x.leadingPower + 2) 21

end Binary64

/-- Where a decimal is written with a point and where with an exponent,
by the power of ten of its leading digit. -/
structure DecimalStyle where
  /-- The least leading power written with a point. -/
  lowest : Int
  /-- The greatest leading power written with a point. -/
  highest : Int
  /-- The least number of digits of an exponent. -/
  exponentWidth : Nat

namespace DecimalStyle

/-- The decimal digits of a number. -/
def digits (n : Nat) : List Char := Nat.toDigits 10 n

/-- The exponent part, with its sign. -/
def exponentText (f : DecimalStyle) (e : Int) : List Char :=
  let ds := digits e.natAbs
  'e' :: (if e < 0 then '-' else '+') :: (List.replicate (f.exponentWidth - ds.length) '0' ++ ds)

/-- A decimal as text; a whole number keeps `.0`. -/
def decimal (f : DecimalStyle) (d : Decimal) : List Char :=
  if d.digits = 0 then ['0', '.', '0']
  else
    let ds := digits d.digits
    let lead : Int := d.exponent + ds.length - 1
    if lead < f.lowest || f.highest < lead then
      match ds with
      | [] => []
      | [c] => c :: f.exponentText lead
      | c :: rest => c :: '.' :: rest ++ f.exponentText lead
    else if 0 ≤ d.exponent then ds ++ List.replicate d.exponent.toNat '0' ++ ['.', '0']
    else if 0 ≤ lead then
      let whole := lead.toNat + 1
      ds.take whole ++ '.' :: ds.drop whole
    else '0' :: '.' :: List.replicate (-lead - 1).toNat '0' ++ ds

/-- A binary64 number as text. -/
def render (f : DecimalStyle) (x : Binary64) : List Char :=
  (if x.negative then ['-'] else []) ++ f.decimal x.shortest

end DecimalStyle

end Telemetry
