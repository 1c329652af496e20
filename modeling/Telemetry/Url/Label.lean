import Telemetry.Text.Composed
import Telemetry.Text.Split
import Telemetry.Url.Direction
import Telemetry.Url.Joiner
import Telemetry.Url.Mapping
import Telemetry.Url.Punycode
/-!
# Url — domain labels

The form in which a domain name is looked up. Variants of letters are
replaced, the name is composed, and each label is checked and written in
ASCII. A label that is in ASCII already has to be the form of a label that
passes the same checks.
-/

namespace Telemetry

namespace Label

/-- What is looked up for characters that are ASCII; fast, as most are. -/
def lookUp (c : Char) : List Char :=
  if Punycode.isBasic c then [c.toLower] else (variant? c).getD [c]

/-- What stands in front of a label written in ASCII. -/
def asciiMark : List Char := ['x', 'n', '-', '-']

/-- The label behind such a mark. -/
def written? (label : List Char) : Option (List Char) :=
  if asciiMark.isPrefixOf label then some (label.drop asciiMark.length) else none

/-- Whether a label that is not in ASCII may be part of a name. -/
def isSound (label : List Char) : Bool :=
  !asciiMark.isPrefixOf label && !label.contains '.' && !label.head?.any Text.isMark &&
    label.all (fun c => Punycode.isBasic c || isPlain c) && joinersFit [] label

/-- The letters of a label, if it is one. -/
def letters? (label : List Char) : Option (List Char) :=
  match written? label with
  | none => if isSound label then some label else none
  | some written =>
    if written.isEmpty || written.getLast? = some '-' || !written.all Punycode.isBasic then none
    else do
      let label ← Punycode.decode written
      if isSound label && Text.composed label == label then some label else none

/-- A label in ASCII. -/
def toBasic (label : List Char) : List Char :=
  if label.all Punycode.isBasic then label else asciiMark ++ Punycode.encode label

/-- **The ASCII form of a domain name**, if it has one. -/
def toAscii (domain : List Char) : Option (List Char) := do
  let mapped := domain.flatMap lookUp
  let composed := if mapped.all Punycode.isBasic then mapped else Text.composed mapped
  let labels ← (Text.splitAt '.' composed).mapM letters?
  let turned := labels.any (·.any fun c => (Direction.of c).isTurned)
  if turned && !labels.all keepsDirection then none
  else some (['.'].intercalate (labels.map toBasic))

end Label

end Telemetry
