import Telemetry.Files.Folder
/-!
# Files — patterns of paths

Patterns that stand for paths: `?` for a character, `*` for any
characters, `[…]` and `[!…]` for characters of a set, and `**` as a whole
component for any number of folders. Everything else stands for itself.
A pattern with three stars in a row, with two that are no component, or
with a bracket that is not closed is refused.
-/

namespace Telemetry

namespace Glob

/-- A range of characters. -/
structure Range where
  low : Char
  high : Char
  deriving DecidableEq, Repr

/-- One part of a pattern. -/
inductive Token where
  | char (c : Char)
  | any
  | sequence
  | within (ranges : List Range)
  | except (ranges : List Range)
  deriving DecidableEq, Repr

/-- What stands between two slashes of a pattern. -/
inductive Component where
  | name (tokens : List Token)
  | folders
  deriving DecidableEq, Repr

/-- The ranges of a bracket: `a-z` from one character to another, any
other character alone. -/
def ranges : List Char → List Range
  | a :: '-' :: b :: rest => ⟨a, b⟩ :: ranges rest
  | a :: rest => ⟨a, a⟩ :: ranges rest
  | [] => []

/-- The inside of a bracket, which holds one character at least, and what
follows it. -/
def bracket : List Char → Option (List Char × List Char)
  | [] => none
  | c :: rest =>
    match rest.dropWhile (· != ']') with
    | _ :: after => some (c :: rest.takeWhile (· != ']'), after)
    | [] => none

/-- Reads the tokens of a component; fuel for each character is enough. -/
def tokens : Nat → List Char → Option (List Token)
  | _, [] => some []
  | 0, _ => none
  | fuel + 1, '?' :: rest => (tokens fuel rest).map (.any :: ·)
  | fuel + 1, '*' :: rest =>
    if rest.head? = some '*' then none else (tokens fuel rest).map (.sequence :: ·)
  | fuel + 1, '[' :: '!' :: rest => do
    let (inside, after) ← bracket rest
    return .except (ranges inside) :: (← tokens fuel after)
  | fuel + 1, '[' :: rest => do
    let (inside, after) ← bracket rest
    return .within (ranges inside) :: (← tokens fuel after)
  | fuel + 1, c :: rest => (tokens fuel rest).map (.char c :: ·)

/-- Reads a component. -/
def Component.ofText (s : String) : Option Component :=
  if s = "**" then some .folders else (tokens s.length s.toList).map .name

/-- Whether a character is in one of some ranges. -/
def inRanges (rs : List Range) (c : Char) : Bool := rs.any fun r => r.low ≤ c && c ≤ r.high

/-- Whether a token that stands for one character stands for this one. -/
def Token.fits : Token → Char → Bool
  | .char d, c => c == d
  | .any, _ => true
  | .within rs, c => inRanges rs c
  | .except rs, c => !inRanges rs c
  | .sequence, _ => false

/-- **Whether a name fits tokens.** -/
def fits : List Token → List Char → Bool
  | [], cs => cs.isEmpty
  | .sequence :: ts, [] => fits ts []
  | .sequence :: ts, c :: cs => fits ts (c :: cs) || fits (.sequence :: ts) cs
  | _ :: _, [] => false
  | t :: ts, c :: cs => t.fits c && fits ts cs
  termination_by ts cs => ts.length + cs.length

/-- The name a component stands for, if it stands for one only. -/
def plainName? (ts : List Token) : Option String :=
  (ts.mapM fun t => match t with
    | Token.char c => some c
    | _ => none).map String.ofList

/-- The paths below a folder that fit components, in ascending order from
name to name. A folder comes before what is in it; fuel for each step
down is enough. -/
def paths (f : Folder) : Nat → List Component → FilePath → List FilePath
  | 0, _, _ => []
  | _, [], p => [p]
  | fuel + 1, .name ts :: rest, p =>
    match plainName? ts with
    | some s =>
      if s.isEmpty || s = "." then paths f fuel rest p
      else if s = ".." then paths f fuel rest p.dropLast
      else if f.exists? (p ++ [s]) then paths f fuel rest (p ++ [s]) else []
    | none =>
      if f.isFolder p then
        ((f.names p).filter fun n => fits ts n.toList).flatMap fun n => paths f fuel rest (p ++ [n])
      else []
  | fuel + 1, .folders :: rest, p =>
    (f.names p).flatMap fun n =>
      let q := p ++ [n]
      let here := match rest with
        | [] => if f.isFolder q then [q] else []
        | .name ts :: more => if fits ts n.toList then paths f fuel more q else []
        | .folders :: _ => []
      here ++ (if f.isFolder q then paths f fuel (.folders :: rest) q else [])

/-- The paths from a folder on that fit a pattern, given as its components;
none if one of these is refused. Two `**` in a row count as one. -/
def find (f : Folder) (start : FilePath) (pattern : List String) : List FilePath :=
  match pattern.mapM Component.ofText with
  | none => []
  | some components =>
    let components := components.foldr (fun c cs =>
      if c = .folders ∧ cs.head? = some .folders then cs else c :: cs) []
    paths f (components.length + (f.files ++ f.folders).length + 1) components start

end Glob

end Telemetry
