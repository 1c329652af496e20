/-!
# Text — UTF-8 with replacement

Bytes read as UTF-8 in two ways: strictly, where any ill-formed sequence
refuses the whole text, and with replacement, where each maximal
ill-formed start of a sequence becomes one U+FFFD. Both are folds of
one step, `next`, which takes a scalar or the ill-formed start off the
front of the bytes.
-/

namespace Telemetry

namespace Text

/-- A trailing byte. -/
def isTrailing (b : UInt8) : Bool := 0x80 ≤ b && b ≤ 0xBF

/-- The second bytes a lead byte of a longer sequence allows: the
narrower ranges exclude overlong forms, surrogates and code points past
U+10FFFF. -/
def allowsSecond (lead second : UInt8) : Bool :=
  if lead = 0xE0 then 0xA0 ≤ second && second ≤ 0xBF
  else if lead = 0xED then 0x80 ≤ second && second ≤ 0x9F
  else if lead = 0xF0 then 0x90 ≤ second && second ≤ 0xBF
  else if lead = 0xF4 then 0x80 ≤ second && second ≤ 0x8F
  else isTrailing second

/-- Six payload bits of a trailing byte. -/
def payload (b : UInt8) : Nat := b.toNat % 64

/-- Takes one scalar off the front, `none` for an ill-formed start, with
the number of bytes taken (at least one). -/
def next (lead : UInt8) (rest : List UInt8) : Option Char × Nat :=
  if lead < 0x80 then (some (Char.ofNat lead.toNat), 1)
  else if 0xC2 ≤ lead && lead ≤ 0xDF then
    match rest with
    | b :: _ =>
      if isTrailing b then (some (Char.ofNat (lead.toNat % 32 * 64 + payload b)), 2) else (none, 1)
    | [] => (none, 1)
  else if 0xE0 ≤ lead && lead ≤ 0xEF then
    match rest with
    | b :: c :: _ =>
      if allowsSecond lead b then
        if isTrailing c then
          (some (Char.ofNat ((lead.toNat % 16 * 64 + payload b) * 64 + payload c)), 3)
        else (none, 2)
      else (none, 1)
    | [b] => if allowsSecond lead b then (none, 2) else (none, 1)
    | [] => (none, 1)
  else if 0xF0 ≤ lead && lead ≤ 0xF4 then
    match rest with
    | b :: c :: d :: _ =>
      if allowsSecond lead b then
        if isTrailing c then
          if isTrailing d then
            (some (Char.ofNat
              (((lead.toNat % 8 * 64 + payload b) * 64 + payload c) * 64 + payload d)), 4)
          else (none, 3)
        else (none, 2)
      else (none, 1)
    | [b, c] =>
      if allowsSecond lead b then (if isTrailing c then (none, 3) else (none, 2)) else (none, 1)
    | [b] => if allowsSecond lead b then (none, 2) else (none, 1)
    | [] => (none, 1)
  else (none, 1)

/-- The scalars and ill-formed starts of a byte sequence, in order. -/
def scalars : List UInt8 → List (Option Char)
  | [] => []
  | lead :: rest =>
    let step := next lead rest
    step.1 :: scalars (rest.drop (step.2 - 1))
  termination_by bytes => bytes.length
  decreasing_by simp only [List.length_drop, List.length_cons]; omega

/-- The text of well-formed UTF-8, nothing otherwise. -/
def decodeStrict (bytes : List UInt8) : Option String :=
  (scalars bytes).mapM id |>.map String.ofList

/-- The text of any bytes, with U+FFFD for each ill-formed start. -/
def decodeLossy (bytes : List UInt8) : String :=
  String.ofList ((scalars bytes).map fun c => c.getD '\uFFFD')

/-- The bytes of a text. -/
def encode (s : String) : List UInt8 := s.toUTF8.toList

/-- The number of bytes of a text. -/
def byteLength (cs : List Char) : Nat := cs.foldl (fun n c => n + c.utf8Size) 0

end Text

end Telemetry
