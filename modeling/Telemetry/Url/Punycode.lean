/-!
# Url — labels in ASCII letters

A label of any letters is written in ASCII by its ASCII letters, a dash,
and numbers that say, from the smallest code point to the greatest, where
the others go in. Each number is the distance from the last one and is
written in digits of base 36; which digit ends a number depends on the
numbers before.
-/

namespace Telemetry

namespace Punycode

/-- The letter or figure of a digit. -/
def digitChar (d : Nat) : Char := Char.ofNat (if d < 26 then d + 97 else d + 22)

/-- The digit of a letter or figure. -/
def digitValue? (c : Char) : Option Nat :=
  if 'a' ≤ c && c ≤ 'z' then some (c.toNat - 97)
  else if c.isDigit then some (c.toNat - 22)
  else none

/-- The least digit that is not the last one, at a place. -/
def threshold (place bias : Nat) : Nat := max 1 (min 26 (place - bias))

/-- The bias of large distances. -/
def biasOf (delta bias : Nat) : Nat :=
  if 455 < delta then biasOf (delta / 35) (bias + 36) else bias + 36 * delta / (delta + 38)
  termination_by delta

/-- The bias after a distance. -/
def adapt (delta count : Nat) (first : Bool) : Nat :=
  let delta := if first then delta / 700 else delta / 2
  biasOf (delta + delta / count) 0

/-- Whether a character is ASCII. -/
def isBasic (c : Char) : Bool := c.toNat < 0x80

/-! ## Reading -/

/-- Reads a number, which is added to a sum. -/
def readNumber (bias : Nat) : Nat → Nat → Nat → List Char → Option (Nat × List Char)
  | _, _, _, [] => none
  | place, weight, sum, c :: rest => do
    let d ← digitValue? c
    let t := threshold place bias
    if d < t then some (sum + d * weight, rest)
    else readNumber bias (place + 36) (weight * (36 - t)) (sum + d * weight) rest

/-- Puts the code points in that some numbers tell of; fuel for each
character is enough. -/
def insertAll : Nat → Nat → Nat → Nat → List Char → List Char → Option (List Char)
  | _, _, _, _, out, [] => some out
  | 0, _, _, _, _, _ => none
  | fuel + 1, point, place, bias, out, cs => do
    let (sum, rest) ← readNumber bias 36 1 place cs
    let count := out.length + 1
    let point := point + sum / count
    if h : point.isValidChar then
      insertAll fuel point (sum % count + 1) (adapt (sum - place) count (place == 0))
        (out.insertIdx (sum % count) (Char.ofNatAux point h)) rest
    else none

/-- **Reads a label.** -/
def decode (cs : List Char) : Option (List Char) :=
  let tail := (cs.reverse.takeWhile (· != '-')).reverse
  let front := cs.take (cs.length - tail.length - 1)
  if front.isEmpty then insertAll cs.length 128 0 72 [] cs
  else insertAll tail.length 128 0 72 front tail

/-! ## Writing -/

/-- Writes a number; fuel for each digit is enough. -/
def writeNumber (bias : Nat) : Nat → Nat → Nat → List Char
  | 0, _, _ => []
  | fuel + 1, place, n =>
    let t := threshold place bias
    if n < t then [digitChar n]
    else
      digitChar (t + (n - t) % (36 - t)) ::
        writeNumber bias fuel (place + 36) ((n - t) / (36 - t))

/-- What has been written of a label. -/
structure Writing where
  text : List Char
  delta : Nat
  bias : Nat
  /-- How many characters are in. -/
  count : Nat

/-- Passes one character while a code point is written. -/
def Writing.pass (basic point : Nat) (w : Writing) (c : Char) : Writing :=
  if c.toNat < point then { w with delta := w.delta + 1 }
  else if c.toNat = point then
    ⟨w.text ++ writeNumber w.bias (w.delta + 1) 36 w.delta, 0,
      adapt w.delta (w.count + 1) (w.count == basic), w.count + 1⟩
  else w

/-- Writes a code point at all its places. `next` is the least one that is
not written. -/
def Writing.point (cs : List Char) (basic : Nat) (w : Writing × Nat) (point : Nat) :
    Writing × Nat :=
  let start := { w.1 with delta := w.1.delta + (point - w.2) * (w.1.count + 1) }
  let after := cs.foldl (Writing.pass basic point) start
  ({ after with delta := after.delta + 1 }, point + 1)

/-- **Writes a label.** -/
def encode (cs : List Char) : List Char :=
  let basic := cs.filter isBasic
  let points := ((cs.filter fun c => !isBasic c).map Char.toNat).mergeSort.eraseDups
  let start : Writing := ⟨if basic.isEmpty then [] else basic ++ ['-'], 0, 72, basic.length⟩
  (points.foldl (Writing.point cs basic.length) (start, 128)).1.text

end Punycode

end Telemetry
