/-!
# Number — binary64

Finite binary64 numbers as a sign, a mantissa and a power of two, with
the one rounding the format has: an exact ratio goes to the nearest
number of the format, a tie to the even mantissa. Products and quotients
are exact ratios rounded once. All of it is arithmetic on natural
numbers, so that what is read and written stays open to proof.
-/

namespace Telemetry

/-- A finite binary64 number, `± mantissa · 2 ^ exponent`. In canonical
form the mantissa is below `2 ^ 53` and, unless the exponent is the
least one, at least `2 ^ 52`. -/
structure Binary64 where
  negative : Bool
  mantissa : Nat
  exponent : Int
  deriving DecidableEq, Repr

namespace Binary64

/-- The least exponent; subnormal numbers and zero have it. -/
def minExponent : Int := -1074

/-- The greatest exponent. -/
def maxExponent : Int := 971

/-- Positive zero. -/
def zero : Binary64 := ⟨false, 0, minExponent⟩

instance : Inhabited Binary64 := ⟨zero⟩

/-- Whether the number is a zero of either sign. -/
def isZero (x : Binary64) : Bool := x.mantissa == 0

/-- The same number with the other sign. -/
def negate (x : Binary64) : Binary64 := { x with negative := !x.negative }

/-- Equality of values: the two zeros are equal, all other numbers have
one form each. -/
instance : BEq Binary64 where
  beq x y := decide (x = y) || (x.isZero && y.isZero)

/-- The ratio of two numbers rounded to a whole number, a tie to the even
one. -/
def roundHalfEven (num den : Nat) : Nat :=
  let q := num / den
  let r := num % den
  if 2 * r < den then q
  else if den < 2 * r then q + 1
  else if q % 2 = 0 then q else q + 1

/-- `num / den` scaled by `2 ^ (-e)`, as a ratio. -/
def scaled (num den : Nat) (e : Int) : Nat × Nat :=
  if 0 ≤ e then (num, den * Nat.pow 2 e.toNat) else (num * Nat.pow 2 (-e).toNat, den)

/-- The exponent at which a positive ratio has 53 binary digits before
the point, or the least exponent where it would be smaller. -/
def exponentOf (num den : Nat) : Int :=
  let guess : Int := (Nat.log2 num : Int) - (Nat.log2 den : Int) - 52
  let (n, d) := scaled num den guess
  max minExponent (if n < d * 0x10000000000000 then guess - 1 else guess)

/-- **The one rounding.** The nearest number to a ratio, `none` where it
is past the greatest one. -/
def ofRatio (negative : Bool) (num den : Nat) : Option Binary64 :=
  if num = 0 then some ⟨negative, 0, minExponent⟩
  else
    let e := exponentOf num den
    let (n, d) := scaled num den e
    let m := roundHalfEven n d
    let (m, e) := if m = 0x20000000000000 then (0x10000000000000, e + 1) else (m, e)
    if maxExponent < e then none else some ⟨negative, m, e⟩

/-- The magnitude as a ratio. -/
def ratio (x : Binary64) : Nat × Nat :=
  if 0 ≤ x.exponent then (x.mantissa * Nat.pow 2 x.exponent.toNat, 1)
  else (x.mantissa, Nat.pow 2 (-x.exponent).toNat)

/-- The nearest number to a whole number. -/
def ofNat? (n : Nat) : Option Binary64 := ofRatio false n 1

/-- The nearest number to an integer of at most 64 bits, for which one
always exists. -/
def ofInt (n : Int) : Binary64 := (ofRatio (decide (n < 0)) n.natAbs 1).getD zero

/-- The rounded product. -/
def mul? (x y : Binary64) : Option Binary64 :=
  let (a, b) := x.ratio
  let (c, d) := y.ratio
  ofRatio (x.negative != y.negative) (a * c) (b * d)

/-- The rounded quotient by a number other than zero. -/
def div? (x y : Binary64) : Option Binary64 :=
  let (a, b) := x.ratio
  let (c, d) := y.ratio
  ofRatio (x.negative != y.negative) (a * d) (b * c)

end Binary64

end Telemetry
