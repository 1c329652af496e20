import Telemetry.Json.Numeral
import Telemetry.Text.Utf8
/-!
# Json — documents

A document is the tree of a JSON text *as far as the text goes*. Where
the text stops being JSON the tree ends in a `torn` leaf or in a
container with a `Break`, so that reading can report whichever fault
comes first in the text: a value of the wrong shape before a missing
bracket further on, or the other way round.

A reader may want a value or only pass over it. Passing over does not
ask whether a number is in range or an escape names a scalar, and it
looks at the end of a broken number differently; a `Break` keeps both
answers.
-/

namespace Telemetry

namespace Json

/-- Why a text is no JSON. -/
inductive Fault where
  /-- A character that cannot stand where it stands. -/
  | malformed
  /-- The text ended too early. -/
  | cutShort
  deriving DecidableEq, Repr

/-- Where a text stops being JSON, as seen by a reader that wants the
value and by one that passes over it. -/
structure Break where
  wanted : Fault
  passing : Fault
  deriving DecidableEq, Repr

/-- A break that is the same for both readers. -/
def Break.both (f : Fault) : Break := ⟨f, f⟩

/-- A JSON text as a tree, as far as it goes. -/
inductive Document where
  | null
  | bool (b : Bool)
  | number (n : Numeral)
  | text (s : Except Fault String)
  | list (items : List Document) (stop : Option Break)
  | object (fields : List (Except Fault String × Document)) (stop : Option Break)
  | torn (stop : Break)

/-! ## Lexical parts -/

/-- The four characters that may stand between tokens. -/
def isSpace (c : Char) : Bool := c == ' ' || c == '\n' || c == '\t' || c == '\r'

/-- Drops space at the front. -/
def dropSpace (cs : List Char) : List Char := cs.dropWhile isSpace

/-- The value of a decimal digit. -/
def digit? (c : Char) : Option Nat :=
  if '0' ≤ c && c ≤ '9' then some (c.toNat - 48) else none

/-- The value of a hexadecimal digit. -/
def hexDigit? (c : Char) : Option Nat :=
  if '0' ≤ c && c ≤ '9' then some (c.toNat - 48)
  else if 'a' ≤ c && c ≤ 'f' then some (c.toNat - 87)
  else if 'A' ≤ c && c ≤ 'F' then some (c.toNat - 55)
  else none

/-- The value of four hexadecimal digits. -/
def hex4? (a b c d : Char) : Option Nat := do
  return (((← hexDigit? a) * 16 + (← hexDigit? b)) * 16 + (← hexDigit? c)) * 16 + (← hexDigit? d)

/-- The character of a one-letter escape. -/
def shortEscape? : Char → Option Char
  | '"' => some '"'
  | '\\' => some '\\'
  | '/' => some '/'
  | 'b' => some '\x08'
  | 'f' => some '\x0c'
  | 'n' => some '\n'
  | 'r' => some '\r'
  | 't' => some '\t'
  | _ => none

/-- A string literal read from just after its opening quote. -/
inductive Literal where
  /-- Closed, with the text it stands for and what follows the quote. -/
  | closed (s : Except Fault String) (rest : List Char)
  | broken (stop : Break)

/-- The text so far, in reverse, unless a fault has been met. -/
abbrev Sofar := Except Fault (List Char)

/-- One more character. -/
def Sofar.push (c : Char) (acc : Sofar) : Sofar := acc.map (c :: ·)

/-- A fault that only matters to a reader that wants the text; the first
one counts. -/
def Sofar.fault (f : Fault) : Sofar → Sofar
  | .ok _ => .error f
  | .error g => .error g

/-- A break met after the text so far. -/
def Sofar.stop (f : Fault) : Sofar → Literal
  | .ok _ => .broken (.both f)
  | .error g => .broken ⟨g, f⟩

/-- The fault of an escape whose four digits are not there: the text must
still hold four bytes for them to be wrong ones. -/
def hexFault (rest : List Char) : Fault :=
  if Text.byteLength (rest.take 4) < 4 then .cutShort else .malformed

/-- The scalar of a surrogate pair. -/
def pairScalar (high low : Nat) : Char :=
  Char.ofNat ((high - 0xD800) * 0x400 + (low - 0xDC00) + 0x10000)

/-- A code unit that is half of a pair. -/
def isLeading (n : Nat) : Bool := 0xD800 ≤ n && n ≤ 0xDBFF

/-- A code unit that is the second half of a pair. -/
def isClosing (n : Nat) : Bool := 0xDC00 ≤ n && n ≤ 0xDFFF

/-- A leading unit that turns out to stand alone is a fault. -/
def Sofar.unpaired (high : Option Nat) (acc : Sofar) : Sofar :=
  if high.isSome then acc.fault .malformed else acc

/-- One code unit written as an escape, after a leading unit if `high`
holds one: the leading unit now pending and the text so far. -/
def Sofar.unit (high : Option Nat) (n : Nat) (acc : Sofar) : Option Nat × Sofar :=
  match high with
  | some h => (none, if isClosing n then acc.push (pairScalar h n) else acc.fault .malformed)
  | none =>
    if isClosing n then (none, acc.fault .malformed)
    else if isLeading n then (some n, acc)
    else (none, acc.push (Char.ofNat n))

/-- Reads a string literal after its opening quote; `high` is a leading
unit that waits for its closing one. -/
def literal (high : Option Nat) (acc : Sofar) : List Char → Literal
  | [] => acc.stop .cutShort
  | '"' :: rest => .closed ((acc.unpaired high).map fun cs => String.ofList cs.reverse) rest
  | '\\' :: 'u' :: a :: b :: c :: d :: rest =>
    match hex4? a b c d with
    | none => acc.stop .malformed
    | some n => literal (acc.unit high n).1 (acc.unit high n).2 rest
  | '\\' :: 'u' :: rest => acc.stop (hexFault rest)
  | '\\' :: c :: rest =>
    match shortEscape? c with
    | some e => literal none ((acc.unpaired high).push e) rest
    | none => (acc.unpaired high).stop .malformed
  | ['\\'] => acc.stop .cutShort
  | c :: rest =>
    if c.toNat < 0x20 then (acc.unpaired high).stop .malformed
    else literal none ((acc.unpaired high).push c) rest

/-- The digits at the front. -/
def digits : List Char → List Nat × List Char
  | [] => ([], [])
  | c :: rest =>
    match digit? c with
    | some d => let (ds, rest') := digits rest; (d :: ds, rest')
    | none => ([], c :: rest)

/-- The break of a number that ends where a digit has to follow. -/
def digitBreak : List Char → Break
  | [] => ⟨.cutShort, .malformed⟩
  | _ :: _ => .both .malformed

/-- Reads the exponent of a number, if there is one. -/
def exponentPart : List Char → Except Break (Option (Bool × List Nat) × List Char)
  | [] => .ok (none, [])
  | c :: rest =>
    if c == 'e' || c == 'E' then
      let (negative, rest) := match rest with
        | '+' :: rest' => (false, rest')
        | '-' :: rest' => (true, rest')
        | _ => (false, rest)
      match digits rest with
      | ([], rest') => .error (digitBreak rest')
      | (ds, rest') => .ok (some (negative, ds), rest')
    else .ok (none, c :: rest)

/-- Reads the fraction of a number, if there is one. -/
def fractionPart : List Char → Except Break (Option (List Nat) × List Char)
  | '.' :: rest =>
    match digits rest with
    | ([], rest') => .error (digitBreak rest')
    | (ds, rest') => .ok (some ds, rest')
  | rest => .ok (none, rest)

/-- Reads a number after its sign. A leading zero stands alone. -/
def number (negative : Bool) (cs : List Char) : Except Break (Numeral × List Char) :=
  match digits cs with
  | ([], rest) => .error (digitBreak rest)
  | (0 :: _ :: _, _) => .error (.both .malformed)
  | (whole, rest) => do
    let (fraction, rest) ← fractionPart rest
    let (exponent, rest) ← exponentPart rest
    return (⟨negative, whole, fraction, exponent⟩, rest)

/-- Takes the rest of a word off the front. -/
def word : List Char → List Char → Except Fault (List Char)
  | [], rest => .ok rest
  | _ :: _, [] => .error .cutShort
  | w :: ws, c :: rest => if w = c then word ws rest else .error .malformed

/-! ## The tree -/

/-- A tree, with what follows it unless it is broken inside. -/
abbrev Reading := Document × Option (List Char)

/-- A leaf of a word such as `null`. -/
def wordLeaf (d : Document) (letters rest : List Char) : Reading :=
  match word letters rest with
  | .ok rest => (d, some rest)
  | .error f => (.torn (.both f), none)

/-- A number leaf. -/
def numberLeaf (negative : Bool) (cs : List Char) : Reading :=
  match number negative cs with
  | .ok (n, rest) => (.number n, some rest)
  | .error b => (.torn b, none)

mutual

/-- Reads one value. Two units of fuel for each character are enough. -/
def value : Nat → List Char → Reading
  | 0, _ => (.torn (.both .malformed), none)
  | fuel + 1, cs =>
    match dropSpace cs with
    | [] => (.torn (.both .cutShort), none)
    | c :: rest =>
      if c = '"' then
        match literal none (.ok []) rest with
        | .closed s rest => (.text s, some rest)
        | .broken b => (.torn b, none)
      else if c = '[' then
        match dropSpace rest with
        | [] => (.list [] (some (.both .cutShort)), none)
        | d :: rest' => if d = ']' then (.list [] none, some rest') else items fuel [] (d :: rest')
      else if c = '\x7b' then
        match dropSpace rest with
        | [] => (.object [] (some (.both .cutShort)), none)
        | d :: rest' =>
          if d = '\x7d' then (.object [] none, some rest') else members fuel [] (d :: rest')
      else if c = 'n' then wordLeaf .null ['u', 'l', 'l'] rest
      else if c = 't' then wordLeaf (.bool true) ['r', 'u', 'e'] rest
      else if c = 'f' then wordLeaf (.bool false) ['a', 'l', 's', 'e'] rest
      else if c = '-' then numberLeaf true rest
      else if (digit? c).isSome then numberLeaf false (c :: rest)
      else (.torn (.both .malformed), none)

/-- Reads the items of a list, the next one first; those before it are in
reverse. -/
def items : Nat → List Document → List Char → Reading
  | 0, acc, _ => (.list acc.reverse (some (.both .malformed)), none)
  | fuel + 1, acc, cs =>
    match value fuel cs with
    | (d, none) => (.list (d :: acc).reverse none, none)
    | (d, some rest) =>
      match dropSpace rest with
      | [] => (.list (d :: acc).reverse (some (.both .cutShort)), none)
      | c :: rest' =>
        if c = ']' then (.list (d :: acc).reverse none, some rest')
        else if c = ',' then
          match dropSpace rest' with
          | ']' :: _ => (.list (d :: acc).reverse (some (.both .malformed)), none)
          | rest'' => items fuel (d :: acc) rest''
        else (.list (d :: acc).reverse (some (.both .malformed)), none)

/-- Reads the fields of an object, the next key first; those before it
are in reverse. -/
def members : Nat → List (Except Fault String × Document) → List Char → Reading
  | 0, acc, _ => (.object acc.reverse (some (.both .malformed)), none)
  | fuel + 1, acc, cs =>
    match cs with
    | [] => (.object acc.reverse (some (.both .cutShort)), none)
    | c :: rest =>
      if c = '"' then
        match literal none (.ok []) rest with
        | .broken b => (.object acc.reverse (some b), none)
        | .closed key rest =>
          match dropSpace rest with
          | [] => (.object ((key, .torn (.both .cutShort)) :: acc).reverse none, none)
          | c :: rest =>
            if c = ':' then
              match value fuel rest with
              | (d, none) => (.object ((key, d) :: acc).reverse none, none)
              | (d, some rest) =>
                match dropSpace rest with
                | [] => (.object ((key, d) :: acc).reverse (some (.both .cutShort)), none)
                | c :: rest =>
                  if c = '\x7d' then (.object ((key, d) :: acc).reverse none, some rest)
                  else if c = ',' then members fuel ((key, d) :: acc) (dropSpace rest)
                  else (.object ((key, d) :: acc).reverse (some (.both .malformed)), none)
            else (.object ((key, .torn (.both .malformed)) :: acc).reverse none, none)
      else (.object acc.reverse (some (.both .malformed)), none)

end

/-- A whole text: its tree, and whether anything but space follows it. -/
structure Page where
  root : Document
  trailing : Bool

/-- Reads a whole text. -/
def Page.ofText (s : String) : Page :=
  let cs := s.toList
  match value (2 * cs.length + 2) cs with
  | (d, some rest) => ⟨d, !(dropSpace rest).isEmpty⟩
  | (d, none) => ⟨d, false⟩

end Json

end Telemetry
