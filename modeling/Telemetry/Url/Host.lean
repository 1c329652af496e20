import Telemetry.Text.Quoted
import Telemetry.Text.Split
import Telemetry.Url.Percent
import Telemetry.Url.Label
/-!
# Url — hosts

A host is a domain name, an address of either version, or, under schemes
that give it no meaning, any text. A domain whose last label is a number
is an address of version 4 or nothing.
-/

namespace Telemetry

namespace Url

/-- Why a text is no URL. -/
inductive ParseError where
  | emptyHost
  | badDomain
  | badPort
  | badAddress4
  | badAddress6
  | badHostCharacter
  | noBase
  | opaqueBase
  deriving DecidableEq, Repr

/-- The wording of an error. -/
def ParseError.message : ParseError → String
  | .emptyHost => "empty host"
  | .badDomain => "invalid international domain name"
  | .badPort => "invalid port number"
  | .badAddress4 => "invalid IPv4 address"
  | .badAddress6 => "invalid IPv6 address"
  | .badHostCharacter => "invalid domain character"
  | .noBase => "relative URL without a base"
  | .opaqueBase => "relative URL with a cannot-be-a-base base"

/-- What a URL points to. -/
inductive Host where
  | domain (name : List Char)
  /-- The 32 bits of an address. -/
  | address4 (bits : Nat)
  /-- The eight pieces of an address. -/
  | address6 (pieces : List Nat)
  /-- A host without meaning; it may be empty. -/
  | plain (text : List Char)
  deriving DecidableEq, Repr

/-! ## Addresses of version 4 -/

/-- A number in a base, if all characters are digits of it. -/
def numberIn (base : Nat) (cs : List Char) : Option Nat :=
  cs.foldlM (fun n c => do
    let d ← Percent.digitValue? (UInt8.ofNat c.toNat)
    if c.toNat < 0x80 && d < base then some (n * base + d) else none) 0

/-- A part of an address: octal after a zero, hexadecimal after `0x`, else
decimal. -/
def addressPart : List Char → Option Nat
  | [] => none
  | '0' :: 'x' :: digits => numberIn 16 digits
  | '0' :: 'X' :: digits => numberIn 16 digits
  | '0' :: d :: digits => numberIn 8 (d :: digits)
  | cs => numberIn 10 cs

/-- The parts of a domain, without the empty one after a point at its
end. -/
def addressParts (domain : List Char) : List (List Char) :=
  let parts := Text.splitAt '.' domain
  if parts.getLast? = some [] && 1 < parts.length then parts.dropLast else parts

/-- Whether the last part of a domain is a number. -/
def endsInNumber (domain : List Char) : Bool :=
  match (addressParts domain).getLast? with
  | none => false
  | some [] => false
  | some last => last.all Char.isDigit || (addressPart last).isSome

/-- The address of parts: all but the last are bytes, the last fills what
is left. -/
def address4OfParts (parts : List Nat) : Option Nat :=
  match parts.reverse with
  | [] => none
  | last :: others =>
    if 3 < others.length || Nat.pow 256 (4 - others.length) ≤ last || others.any (255 < ·) then none
    else
      let high := others.reverse.foldl (fun n b => n * 256 + b) 0
      some (high * Nat.pow 256 (4 - others.length) + last)

/-- Reads an address of version 4. -/
def readAddress4 (domain : List Char) : Except ParseError Host :=
  match (addressParts domain).mapM addressPart with
  | some parts =>
    match address4OfParts parts with
    | some bits => .ok (.address4 bits)
    | none => .error .badAddress4
  | none => .error .badAddress4

/-! ## Addresses of version 6 -/

/-- Up to so many hexadecimal digits at the front. -/
def hexFront : Nat → Nat → List Char → Nat × List Char
  | 0, n, cs => (n, cs)
  | _ + 1, n, [] => (n, [])
  | k + 1, n, c :: rest =>
    match numberIn 16 [c] with
    | some d => hexFront k (n * 16 + d) rest
    | none => (n, c :: rest)

/-- A byte in decimal, without leading zeros. -/
def decimalByte (cs : List Char) : Option Nat :=
  match cs with
  | [] => none
  | ['0'] => some 0
  | '0' :: _ => none
  | _ => (numberIn 10 cs).bind fun n => if n ≤ 255 then some n else none

/-- Four decimal bytes as two pieces. -/
def tailPieces (cs : List Char) : Option (List Nat) := do
  match ← (Text.splitAt '.' cs).mapM decimalByte with
  | [a, b, c, d] => some [a * 256 + b, c * 256 + d]
  | _ => none

/-- Reads pieces. `seen` are those read, in reverse, and `gap` is how many
stood before the `::`. -/
def pieces : Nat → List Nat → Option Nat → List Char → Option (List Nat × Option Nat)
  | 0, _, _, _ => none
  | _, seen, gap, [] => some (seen.reverse, gap)
  | fuel + 1, seen, gap, ':' :: rest =>
    if 8 ≤ seen.length || gap.isSome then none else pieces fuel seen (some seen.length) rest
  | fuel + 1, seen, gap, cs =>
    if 8 ≤ seen.length then none
    else
      let (n, rest) := hexFront 4 0 cs
      match rest with
      | [] => some ((n :: seen).reverse, gap)
      | [':'] => none
      | ':' :: rest' => pieces fuel (n :: seen) gap rest'
      | '.' :: _ =>
        if 6 < seen.length then none else (tailPieces cs).map fun t => (seen.reverse ++ t, gap)
      | _ => none

/-- All eight pieces: the gap is filled with zeros, and without one there
have to be eight. -/
def fillGap (ps : List Nat) : Option Nat → Option (List Nat)
  | none => if ps.length = 8 then some ps else none
  | some k =>
    if ps.length < 8 then some (ps.take k ++ List.replicate (8 - ps.length) 0 ++ ps.drop k)
    else none

/-- Reads an address of version 6, without its brackets. -/
def readAddress6 (cs : List Char) : Except ParseError Host :=
  let start := match cs with
    | ':' :: ':' :: rest => pieces (cs.length + 1) [] (some 0) rest
    | ':' :: _ => none
    | _ => if cs.length < 2 then none else pieces (cs.length + 1) [] none cs
  match start.bind fun r => fillGap r.1 r.2 with
  | some ps => .ok (.address6 ps)
  | none => .error .badAddress6

/-! ## Hosts -/

/-- A text between brackets. -/
def bracketed? : List Char → Option (List Char)
  | '[' :: rest => if rest.getLast? = some ']' then some rest.dropLast else none
  | _ => none

/-- A character that no domain may hold. -/
def forbiddenInDomain (c : Char) : Bool :=
  c.toNat ≤ 0x20 || c.toNat == 0x7F ||
    ['%', '#', '/', ':', '<', '>', '?', '@', '[', '\\', ']', '^', '|'].contains c

/-- A character that no host may hold. -/
def forbiddenInHost (c : Char) : Bool :=
  ['\x00', '\t', '\n', '\r', ' ', '#', '/', ':', '<', '>', '?', '@', '[', '\\', ']', '^',
    '|'].contains c

/-- The ASCII form of a domain, given percent-encoded. -/
def domainToAscii (cs : List Char) : Except ParseError (List Char) :=
  match Text.decodeStrict (Percent.decodeBytes (Text.encode (String.ofList cs))) with
  | none => .error .badDomain
  | some s =>
    match Label.toAscii s.toList with
    | some domain => if domain.any forbiddenInDomain then .error .badDomain else .ok domain
    | none => .error .badDomain

/-- Reads the host of a special scheme. -/
def Host.ofText (cs : List Char) : Except ParseError Host :=
  if cs.head? = some '[' then
    match bracketed? cs with
    | some inner => readAddress6 inner
    | none => .error .badAddress6
  else do
    let domain ← domainToAscii cs
    if domain.isEmpty then .error .emptyHost
    else if endsInNumber domain then readAddress4 domain
    else .ok (.domain domain)

/-- Reads the host of any other scheme. -/
def Host.ofPlainText (cs : List Char) : Except ParseError Host :=
  if cs.head? = some '[' then
    match bracketed? cs with
    | some inner => readAddress6 inner
    | none => .error .badAddress6
  else if cs.any forbiddenInHost then .error .badHostCharacter
  else .ok (.plain (Percent.encode Percent.isControl cs))

/-- Reads a host. -/
def Host.read (special : Bool) (cs : List Char) : Except ParseError Host :=
  if special then Host.ofText cs else Host.ofPlainText cs

/-- The numbers of zeros that start at each place of a list. -/
def zeroRuns : List Nat → List Nat
  | [] => []
  | p :: rest =>
    let runs := zeroRuns rest
    (if p = 0 then (runs.head?.getD 0) + 1 else 0) :: runs

/-- Where the longest run of at least two zeros stands, the first of
equally long ones, and its length. -/
def longestGap (ps : List Nat) : Option (Nat × Nat) :=
  let best := (zeroRuns ps).foldl max 0
  if best < 2 then none else some ((zeroRuns ps).idxOf best, best)

/-- Pieces with colons between them. -/
def piecesText (ps : List Nat) : List Char := [':'].intercalate (ps.map Text.hexDigits)

/-- The text of an address of version 6. -/
def address6Text (ps : List Nat) : List Char :=
  match longestGap ps with
  | none => piecesText ps
  | some (start, length) =>
    piecesText (ps.take start) ++ [':', ':'] ++ piecesText (ps.drop (start + length))

/-- The text of an address of version 4. -/
def address4Text (bits : Nat) : List Char :=
  ['.'].intercalate
    ([bits / 16777216, bits / 65536 % 256, bits / 256 % 256, bits % 256].map (Nat.toDigits 10))

/-- The text of a host. -/
def Host.text : Host → List Char
  | .domain name => name
  | .address4 bits => address4Text bits
  | .address6 ps => '[' :: address6Text ps ++ [']']
  | .plain text => text

end Url

end Telemetry
