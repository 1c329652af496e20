import Telemetry.Text.Blank
import Telemetry.Text.Digits
import Telemetry.Text.Split
import Telemetry.Text.Word
/-!
# Logging — filters

Which log lines are shown. A filter is a list of directives with commas
between them; a directive names a target, a level, or both. The directive
with the longest target that a line's target starts with decides, so the
order of directives does not matter, save that of two for the same target
the later counts.

A directive may also ask for a span, in brackets. Lines stand in no span
here, so such a directive shows none by itself; one that only asks for
fields applies to lines that have them.
-/

namespace Telemetry

namespace Logging

/-- How important a line is, or how much is shown. -/
inductive Level where
  | off
  | error
  | warn
  | info
  | debug
  | trace
  deriving DecidableEq, Repr

namespace Level

/-- The rank of a level; more is shown at a higher one. -/
def rank : Level → Nat
  | .off => 0
  | .error => 1
  | .warn => 2
  | .info => 3
  | .debug => 4
  | .trace => 5

/-- The name of a level in a log line. -/
def name : Level → String
  | .off => "OFF"
  | .error => "ERROR"
  | .warn => "WARN"
  | .info => "INFO"
  | .debug => "DEBUG"
  | .trace => "TRACE"

/-- All levels by rank. -/
def all : List Level := [.off, .error, .warn, .info, .debug, .trace]

/-- Reads a level from its rank or its name in any case. -/
def ofText (cs : List Char) : Option Level :=
  match (Text.readNatural cs).bind fun n => all[n]? with
  | some l => some l
  | none => all.find? fun l => l.name.toList == cs.map Char.toUpper

end Level

/-- A directive. -/
structure Directive where
  /-- What the target of a line has to start with. -/
  target : Option (List Char)
  /-- The span a line has to be in. -/
  span : Option (List Char)
  /-- The fields a line has to have, each with whether a value is asked
  for. -/
  fields : List (List Char × Bool)
  level : Level
  deriving DecidableEq, Repr

namespace Directive

/-- The level after an equals sign: everything, if nothing follows. -/
def levelAfter (cs : List Char) : Option Level :=
  if cs.isEmpty then some .trace else Level.ofText cs

/-- A directive without brackets or equals sign: a level, or else a
target for which everything is shown. -/
def ofWord (cs : List Char) : Directive :=
  match Level.ofText cs with
  | some l => ⟨none, none, [], l⟩
  | none => ⟨some cs, none, [], .trace⟩

/-- The field in braces, with or without a value. -/
def readField (cs : List Char) : Option (List Char × Bool) :=
  if cs.isEmpty then none else some (cs.takeWhile (· != '='), cs.contains '=')

/-- What follows the brackets: nothing, or a level. -/
def afterBrackets (d : Directive) (scan text : List Char) : Option Directive :=
  match scan with
  | [] => some d
  | '=' :: rest =>
    (levelAfter (text.drop (text.length - rest.length))).map fun l => { d with level := l }
  | _ => none

/-- What follows an opening bracket: a span, or fields in braces. -/
def inBrackets (target : Option (List Char)) (scan text : List Char) : Option Directive :=
  let stops (c : Char) : Bool := c == ']' || c == '\x7b'
  let name := scan.takeWhile fun c => !stops c
  match scan.dropWhile fun c => !stops c with
  | ']' :: rest => afterBrackets ⟨target, some name, [], .trace⟩ rest text
  | '\x7b' :: rest =>
    match rest.dropWhile (· != '\x7d') with
    | _ :: ']' :: after => do
      let field ← readField (rest.takeWhile (· != '\x7d'))
      let span := if name.isEmpty then none else some name
      afterBrackets ⟨target, span, [field], .trace⟩ after text
    | _ => none
  | _ => none

/-- A character a directive may start with. -/
def startsWord (c : Char) : Bool :=
  c == '-' || c == ':' || c == '_' || Text.isWordChar c

/-- **Reads a directive.** Its parts are looked for between the blanks
around it, but are cut from the text as it stands. -/
def ofText (text : List Char) : Option Directive :=
  let scan := Text.trim text
  match scan with
  | [] => none
  | '[' :: rest => inBrackets none rest text
  | c :: _ =>
    if startsWord c then
      let word := scan.takeWhile fun c => c != '=' && c != '['
      let target := some (text.take word.length)
      match scan.drop word.length with
      | '=' :: _ =>
        (levelAfter (text.drop (word.length + 1))).map fun l => ⟨target, none, [], l⟩
      | '[' :: rest => inBrackets target rest text
      | _ => some (ofWord text)
    else none

/-- A directive that can only be decided while the program runs: it asks
for a span or for the value of a field. -/
def isDynamic (d : Directive) : Bool := d.span.isSome || d.fields.any Prod.snd

/-- Whether a directive is about a line. -/
def concerns (d : Directive) (target : List Char) (fields : List (List Char)) : Bool :=
  (match d.target with
    | some t => t.isPrefixOf target
    | none => true) && d.fields.all fun f => fields.contains f.1

/-- How closely a directive looks: the length of its target, then how
many fields it asks for. -/
def weight (d : Directive) : Nat × Nat :=
  ((d.target.map fun t => t.length + 1).getD 0, d.fields.length)

/-- Whether a directive decides before another one that was given
earlier. -/
def overrides (new old : Directive) : Bool :=
  old.weight.1 < new.weight.1 || (old.weight.1 == new.weight.1 && old.weight.2 ≤ new.weight.2)

end Directive

/-- The directives of a filter, in the order given. -/
structure Filter where
  directives : List Directive
  deriving DecidableEq, Repr

namespace Filter

/-- Reads a filter; empty directives are left out. -/
def ofText (s : String) : Option Filter :=
  (((Text.splitAt ',' s.toList).filter fun cs => !cs.isEmpty).mapM Directive.ofText).map Filter.mk

/-- The directive that decides about a line. -/
def decider? (f : Filter) (target : List Char) (fields : List (List Char)) : Option Directive :=
  let about := f.directives.filter fun d => !d.isDynamic && d.concerns target fields
  about.foldl (fun best d => match best with
    | some b => if d.overrides b then some d else some b
    | none => some d) none

/-- **Whether a line is shown.** Where no directive is about it, it is
not. -/
def shows (f : Filter) (level : Level) (target : String) (fields : List (List Char)) : Bool :=
  match f.decider? target.toList fields with
  | some d => level.rank ≤ d.level.rank
  | none => false

end Filter

end Logging

end Telemetry
