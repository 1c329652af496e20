import Telemetry.Text.Digits
import Telemetry.Url.Basic
/-!
# Url — reading

Reads an absolute URL: scheme, user information, host, port, path, query
and fragment, in this order. Under a special scheme a backslash counts as
a slash, any number of slashes lead to the host, and the host must not be
empty.
-/

namespace Telemetry

namespace Url

/-- Blanks and controls, which may stand around a URL. -/
def isPadding (c : Char) : Bool := c.toNat ≤ 0x20

/-- The characters of a URL that count. -/
def significant (s : String) : List Char :=
  let front := s.toList.dropWhile isPadding
  (front.reverse.dropWhile isPadding).reverse.filter fun c => !isIgnored c

/-- The scheme in lower case, and what follows its colon. -/
def splitScheme (cs : List Char) : Option (List Char × List Char) :=
  let isPart (c : Char) := c.isAlphanum || c == '+' || c == '-' || c == '.'
  match cs with
  | [] => none
  | c :: _ =>
    if c.isAlpha then
      match cs.dropWhile isPart with
      | ':' :: rest => some ((cs.takeWhile isPart).map Char.toLower, rest)
      | _ => none
    else none

/-- A character that ends an authority. -/
def endsAuthority (special : Bool) (c : Char) : Bool :=
  c == '/' || c == '?' || c == '#' || (special && c == '\\')

/-- User information before the last `@` of an authority, if there is
one, and the rest. -/
def splitUserinfo (authority : List Char) : Option (List Char) × List Char :=
  if authority.contains '@' then
    let rest := (authority.reverse.takeWhile (· != '@')).reverse
    (some (authority.take (authority.length - rest.length - 1)), rest)
  else (none, authority)

/-- User name and password of user information. -/
def credentials (info : List Char) : List Char × List Char :=
  let encode := Percent.encode Percent.inUserinfo
  (encode (info.takeWhile (· != ':')), encode ((info.dropWhile (· != ':')).drop 1))

/-- A host at the front, up to a colon outside brackets. -/
def splitHost (inside : Bool) : List Char → List Char × List Char
  | [] => ([], [])
  | c :: rest =>
    if c = ':' && !inside then ([], c :: rest)
    else
      let inside := if c = '[' then true else if c = ']' then false else inside
      let (host, after) := splitHost inside rest
      (c :: host, after)

/-- The port after a colon; the default one is left out. -/
def readPort (scheme : List Char) (digits : List Char) : Except ParseError (Option Nat) :=
  if digits.all Char.isDigit then
    let n := Text.digitsValue digits
    if 65535 < n then .error .badPort
    else if digits.isEmpty || defaultPort scheme = some n then .ok none
    else .ok (some n)
  else .error .badPort

/-- The parts of a path at its separators. -/
def pathParts (special : Bool) (cs : List Char) : List (List Char) :=
  Text.splitAt '/' (if special then cs.map fun c => if c = '\\' then '/' else c else cs)

/-- The segments of a path, given with its leading slash or without. -/
def readSegments (special file : Bool) (cs : List Char) : UrlPath :=
  let parts := match pathParts special cs with
    | [] :: part :: parts => part :: parts
    | parts => parts
  .segments (resolve file [] (parts.map (Percent.encode Percent.inPath)))

/-- What follows the authority, cut into path, query and fragment. -/
structure Tail where
  path : List Char
  query : Option (List Char)
  fragment : Option (List Char)

/-- Cuts what follows the authority. -/
def Tail.ofList (special : Bool) (cs : List Char) : Tail :=
  let (body, fragment) := match cs.dropWhile (· != '#') with
    | _ :: f => (cs.takeWhile (· != '#'), some (Percent.encode Percent.inFragment f))
    | [] => (cs, none)
  match body.dropWhile (· != '?') with
  | _ :: q =>
    ⟨body.takeWhile (· != '?'), some (Percent.encode (Percent.inQuery special) q), fragment⟩
  | [] => ⟨body, none, fragment⟩

/-- Goes on unless there should be a host and is none. -/
def refuseIf (hostMissing : Bool) : Except ParseError Unit :=
  if hostMissing then .error .emptyHost else .ok ()

/-- Reads what follows the two slashes before an authority. -/
def readAuthority (scheme : List Char) (cs : List Char) : Except ParseError Url := do
  let special := isSpecialScheme scheme
  let authority := cs.takeWhile fun c => !endsAuthority special c
  let after := cs.dropWhile fun c => !endsAuthority special c
  let (info, hostPort) := splitUserinfo authority
  refuseIf (info = some [] && hostPort.isEmpty && !after.isEmpty)
  let (username, password) := credentials (info.getD [])
  let (hostText, portText) := splitHost false hostPort
  refuseIf (special && hostText.isEmpty)
  let host ← Host.read special hostText
  refuseIf (hostText.isEmpty && !portText.isEmpty)
  let port ← readPort scheme (portText.drop 1)
  refuseIf (hostText.isEmpty && !(username.isEmpty && password.isEmpty))
  let tail := Tail.ofList special after
  let path :=
    if !special && tail.path.isEmpty then .segments [] else readSegments special false tail.path
  return ⟨scheme, username, password, some host, port, path, tail.query, tail.fragment⟩

/-- Reads what follows the scheme `file`. A drive letter in place of the
host belongs to the path, and the local host is left out. -/
def readFile (cs : List Char) : Except ParseError Url := do
  let scheme := "file".toList
  let isSlash (c : Char) : Bool := c == '/' || c == '\\'
  match cs with
  | a :: b :: rest =>
    if isSlash a && isSlash b then
      let hostText := rest.takeWhile fun c => !endsAuthority true c
      let isLocal := hostText.isEmpty || isDrive hostText
      let host ← if isLocal then pure (Host.plain []) else Host.ofText hostText
      let host := if host = .domain "localhost".toList then .plain [] else host
      let tail := Tail.ofList true (if isLocal then rest else rest.drop hostText.length)
      return ⟨scheme, [], [], some host, none, readSegments true true tail.path, tail.query,
        tail.fragment⟩
    else return local? cs
  | _ => return local? cs
where
  /-- A path without a host. -/
  local? (cs : List Char) : Url :=
    let tail := Tail.ofList true cs
    ⟨"file".toList, [], [], some (.plain []), none, readSegments true true tail.path, tail.query,
      tail.fragment⟩

/-- Reads what follows a scheme without meaning here. -/
def readOther (scheme : List Char) : List Char → Except ParseError Url
  | '/' :: '/' :: rest => readAuthority scheme rest
  | cs =>
    let tail := Tail.ofList false cs
    let path := if tail.path.head? = some '/' then readSegments false false tail.path
      else .flat (Percent.encode Percent.isControl tail.path)
    .ok ⟨scheme, [], [], none, none, path, tail.query, tail.fragment⟩

/-- **Reads an absolute URL.** -/
def parse (s : String) : Except ParseError Url :=
  match splitScheme (significant s) with
  | none => .error .noBase
  | some (scheme, rest) =>
    if scheme = "file".toList then readFile rest
    else if isSpecialScheme scheme then
      readAuthority scheme (rest.dropWhile fun c => c == '/' || c == '\\')
    else readOther scheme rest

/-- Whether a URL has no segments to go by. -/
def cannotBeBase (u : Url) : Bool :=
  match u.path with
  | .flat _ => true
  | .segments _ => false

end Url

end Telemetry
