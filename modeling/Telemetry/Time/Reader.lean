import Telemetry.Time.Instant
import Telemetry.Text.Blank
import Telemetry.Text.Digits
import Telemetry.Text.Utf8
/-!
# Time — reading time stamps

Three notations are read. A **stamp** is what servers write: date and
time with an offset (`ofStampWithOffset?`), or without one and then in
UTC (`ofStampWithoutOffset?`); `ofStamp?` tries the first and then the
second. A **lenient** stamp is what people write, in configuration files
and on the command line: blanks between the parts, short numbers, `UTC`
for the offset.

Numbers are checked as they are read, so that the first fault of the
text is the one reported; whether the day exists in its month is seen
last.
-/

namespace Telemetry

namespace Time

/-- Why a text is no time stamp. -/
inductive StampError where
  | outOfRange
  | impossible
  | invalid
  | tooShort
  | tooLong
  deriving DecidableEq, Repr

/-- The wording of a stamp error. -/
def StampError.message : StampError → String
  | .outOfRange => "input is out of range"
  | .impossible => "no possible date and time matching input"
  | .invalid => "input contains invalid characters"
  | .tooShort => "premature end of input"
  | .tooLong => "trailing input"

namespace Stamp

/-- A decimal digit. -/
def isDigit (c : Char) : Bool := '0' ≤ c && c ≤ '9'

/-- A number of at least `least` and at most `most` digits (any number of
them for `none`), below `2 ^ 63`. -/
def number (least : Nat) (most : Option Nat) (cs : List Char) :
    Except StampError (Nat × List Char) :=
  let ds := ((most.map cs.take).getD cs).takeWhile isDigit
  if Text.byteLength (cs.take least) < least then .error .tooShort
  else if ds.length < least then .error .invalid
  else if 0x8000000000000000 ≤ Text.digitsValue ds then .error .outOfRange
  else .ok (Text.digitsValue ds, cs.drop ds.length)

/-- One given character. -/
def literal (c : Char) : List Char → Except StampError (List Char)
  | [] => .error .tooShort
  | d :: rest => if d = c then .ok rest else .error .invalid

/-- A check on a number that has been read. -/
def within (low high n : Nat) : Except StampError Nat :=
  if low ≤ n ∧ n ≤ high then .ok n else .error .outOfRange

/-- The parts of a stamp before its offset. -/
structure Parts where
  year : Int
  month : Nat
  day : Nat
  hour : Nat
  minute : Nat
  second : Nat
  nanos : Nat

/-- Digits after a point, as nanoseconds; the tenth and later ones do not
count. -/
def nanoseconds (cs : List Char) : Except StampError (Nat × List Char) := do
  let (n, rest) ← number 1 (some 9) cs
  let places := cs.length - rest.length
  return (n * Nat.pow 10 (9 - places), rest.dropWhile isDigit)

/-- A fraction, if there is a point. -/
def fraction : List Char → Except StampError (Nat × List Char)
  | '.' :: rest => nanoseconds rest
  | rest => .ok (0, rest)

/-- The offset east of UTC in seconds, with minutes always written and
whatever `separator` allows between them and the hours. -/
def offset (separator : List Char → Except StampError (List Char)) :
    List Char → Except StampError (Int × List Char)
  | [] => .error .tooShort
  | c :: rest =>
    if c = 'Z' || c = 'z' then .ok (0, rest)
    else if c = '+' || c = '-' || c = '−' then do
      let (hours, rest) ← pair rest
      let rest ← separator rest
      let (minutes, rest) ← pair rest
      if 59 < minutes then .error .outOfRange
      else
        let seconds : Int := hours * 3600 + minutes * 60
        return (if c = '+' then seconds else -seconds, rest)
    else .error .invalid
where
  /-- Two digits. -/
  pair (cs : List Char) : Except StampError (Nat × List Char) :=
    if Text.byteLength (cs.take 2) < 2 then .error .tooShort
    else match cs with
      | a :: b :: rest =>
        if isDigit a && isDigit b then .ok (Text.digitsValue [a, b], rest) else .error .invalid
      | _ => .error .invalid

/-- The instant of a date and time of day at an offset. -/
def Parts.toInstant (p : Parts) (offset : Int) : Except StampError Instant :=
  let date : Date := ⟨p.year, p.month, p.day⟩
  if ¬ date.Valid then .error .outOfRange
  else if 86400 ≤ offset.natAbs then .error .outOfRange
  else
    let leap := p.second == 60
    let second : Int := p.hour * 3600 + p.minute * 60 + (if leap then 59 else p.second)
    let seconds := date.toDays * 86400 + second - offset
    let first := (⟨firstYear, 1, 1⟩ : Date).toDays * 86400
    let last := (⟨lastYear, 12, 31⟩ : Date).toDays * 86400 + 86399
    if seconds < first ∨ last < seconds then .error .impossible
    else .ok ⟨seconds, p.nanos + (if leap then 1000000000 else 0)⟩

/-! ## Stamps with an offset -/

/-- The character between date and time. -/
def betweenDateAndTime : List Char → Except StampError (List Char)
  | [] => .error .tooShort
  | c :: rest => if c = 't' || c = 'T' || c = ' ' then .ok rest else .error .invalid

/-- A number of exactly so many digits within bounds. -/
def fixed (width low high : Nat) (cs : List Char) : Except StampError (Nat × List Char) := do
  let (n, rest) ← number width (some width) cs
  return (← within low high n, rest)

/-- Date and time of day, each number in its full width. -/
def fixedParts (cs : List Char) : Except StampError (Parts × List Char) := do
  let (year, cs) ← fixed 4 0 9999 cs
  let cs ← literal '-' cs
  let (month, cs) ← fixed 2 1 12 cs
  let cs ← literal '-' cs
  let (day, cs) ← fixed 2 1 31 cs
  let cs ← betweenDateAndTime cs
  let (hour, cs) ← fixed 2 0 23 cs
  let cs ← literal ':' cs
  let (minute, cs) ← fixed 2 0 59 cs
  let cs ← literal ':' cs
  let (second, cs) ← fixed 2 0 60 cs
  let (nanos, cs) ← fraction cs
  return (⟨year, month, day, hour, minute, second, nanos⟩, cs)

/-! ## Stamps of free width -/

/-- A year: up to four digits, or any number of them after a sign. -/
def year (cs : List Char) : Except StampError (Int × List Char) := do
  let (y, rest) ← match Text.trimFront cs with
    | '-' :: cs => do
      let (n, rest) ← number 1 none cs
      pure (-(n : Int), rest)
    | '+' :: cs => do
      let (n, rest) ← number 1 none cs
      pure ((n : Int), rest)
    | cs => do
      let (n, rest) ← number 1 (some 4) cs
      pure ((n : Int), rest)
  if y < -0x80000000 ∨ 0x80000000 ≤ y then .error .outOfRange else return (y, rest)

/-- One or two digits within bounds, after any blanks. -/
def short (low high : Nat) (cs : List Char) : Except StampError (Nat × List Char) := do
  let (n, rest) ← number 1 (some 2) (Text.trimFront cs)
  return (← within low high n, rest)

/-- Date and time of day, each number in as many digits as it has. Where
`gap` says so, blanks may stand before the separators. -/
def freeParts (gap : List Char → List Char)
    (between : List Char → Except StampError (List Char)) (cs : List Char) :
    Except StampError (Parts × List Char) := do
  let (year, cs) ← year cs
  let cs ← literal '-' (gap cs)
  let (month, cs) ← short 1 12 cs
  let cs ← literal '-' (gap cs)
  let (day, cs) ← short 1 31 cs
  let cs ← between cs
  let (hour, cs) ← short 0 23 cs
  let cs ← literal ':' (gap cs)
  let (minute, cs) ← short 0 59 cs
  let cs ← literal ':' (gap cs)
  let (second, cs) ← short 0 60 cs
  let (nanos, cs) ← fraction cs
  return (⟨year, month, day, hour, minute, second, nanos⟩, cs)

/-- Nothing may be left. -/
def atEnd : List Char → Except StampError Unit
  | [] => .ok ()
  | _ :: _ => .error .tooLong

/-- `UTC` in any case, or an offset whose colon may be missing or
surrounded by blanks. -/
def lenientOffset (cs : List Char) : Except StampError (Int × List Char) :=
  if (cs.take 3).map Char.toUpper == ['U', 'T', 'C'] then .ok (0, cs.drop 3)
  else offset (fun cs => .ok (cs.dropWhile fun c => c == ':' || Text.isBlank c)) cs

end Stamp

namespace Instant

/-- A stamp with an offset of at most 23:59. -/
def ofStampWithOffset (s : String) : Except StampError Instant := do
  let (parts, cs) ← Stamp.fixedParts s.toList
  let (offset, cs) ← Stamp.offset (Stamp.literal ':') cs
  if 86400 ≤ offset.natAbs then .error .outOfRange
  else
    Stamp.atEnd cs
    parts.toInstant offset

/-- A stamp without an offset, in UTC. -/
def ofStampWithoutOffset (s : String) : Except StampError Instant := do
  let (parts, cs) ← Stamp.freeParts id (Stamp.literal 'T') s.toList
  Stamp.atEnd cs
  parts.toInstant 0

/-- **The time of a server's stamp**: with an offset, or else without one. -/
def ofStamp? (s : String) : Option Instant :=
  match ofStampWithOffset s with
  | .ok t => some t
  | .error _ => (ofStampWithoutOffset s).toOption

/-- The time of a lenient stamp. -/
def ofLenientStamp (s : String) : Except StampError Instant := do
  let (parts, cs) ← Stamp.freeParts Text.trimFront Stamp.betweenDateAndTime s.toList
  let (offset, cs) ← Stamp.lenientOffset (Text.trimFront cs)
  Stamp.atEnd (Text.trimFront cs)
  parts.toInstant offset

end Instant

end Time

end Telemetry
