import Telemetry.Url.Host
/-!
# Url — addresses

A URL in its parts, each already encoded as it is written. The path of
most URLs is a list of segments; after a scheme without authority it may
be opaque, and such a URL can be no base for others.

A URL may be put under another scheme. Segments and query pairs are added to it
one by one; an addition never changes what stands before it.
-/

namespace Telemetry

/-- The path of a URL. -/
inductive UrlPath where
  | segments (parts : List (List Char))
  | flat (text : List Char)
  deriving DecidableEq, Repr

/-- A URL. -/
structure Url where
  scheme : List Char
  username : List Char
  password : List Char
  host : Option Url.Host
  port : Option Nat
  path : UrlPath
  query : Option (List Char)
  fragment : Option (List Char)
  deriving DecidableEq, Repr

namespace Url

/-! ## Schemes -/

/-- The special schemes with their default ports. -/
def specialSchemes : List (List Char × Option Nat) :=
  [("http".toList, some 80), ("https".toList, some 443), ("ws".toList, some 80),
    ("wss".toList, some 443), ("ftp".toList, some 21), ("file".toList, none)]

/-- Whether a scheme is special. -/
def isSpecialScheme (scheme : List Char) : Bool := (specialSchemes.lookup scheme).isSome

/-- The port a scheme stands for. -/
def defaultPort (scheme : List Char) : Option Nat := (specialSchemes.lookup scheme).join

/-- Whether a URL has a special scheme. -/
def isSpecial (u : Url) : Bool := isSpecialScheme u.scheme

/-- Whether a URL names a host. -/
def namesHost (u : Url) : Bool :=
  match u.host with
  | none | some (.plain []) => false
  | some _ => true

/-- Puts a URL under another scheme, where a default port is left out. Special
schemes are kept apart from the others: what is special must name a host, and a
URL with an authority cannot become a file. -/
def withScheme? (u : Url) (scheme : List Char) : Option Url :=
  let special := isSpecialScheme scheme
  if special != u.isSpecial || scheme == "file".toList && u.host.isSome || special && !u.namesHost
  then none
  else some { u with scheme := scheme, port := u.port.filter fun n => defaultPort scheme != some n }

/-! ## Paths -/

/-- What a segment does to the path it is appended to. -/
inductive Step where
  /-- Stays where it is. -/
  | stay
  /-- Goes up. -/
  | up
  | down

/-- A dot, plain or encoded, at the front of a segment. -/
def dropDot : List Char → Option (List Char)
  | '.' :: rest => some rest
  | '%' :: '2' :: 'e' :: rest => some rest
  | '%' :: '2' :: 'E' :: rest => some rest
  | _ => none

/-- One dot stays, two go up, anything else goes down. -/
def stepOf (segment : List Char) : Step :=
  match dropDot segment with
  | some [] => .stay
  | some rest => if dropDot rest = some [] then .up else .down
  | none => .down

/-- A letter and a colon or a bar. -/
def isDrive : List Char → Bool
  | [c, ':'] => c.isAlpha
  | [c, '|'] => c.isAlpha
  | _ => false

/-- The path one level up; under `file` a drive is never left. -/
def shorten (file : Bool) (path : List (List Char)) : List (List Char) :=
  match path with
  | [[c, ':']] => if file && c.isAlpha then path else []
  | _ => path.dropLast

/-- Appends a segment to a path; `last` tells whether nothing follows, in
which case a dot segment leaves an empty one behind. -/
def walk (file last : Bool) (path : List (List Char)) (segment : List Char) : List (List Char) :=
  match stepOf segment with
  | .stay => if last then path ++ [[]] else path
  | .up => if last then shorten file path ++ [[]] else shorten file path
  | .down =>
    match segment with
    | [c, '|'] => if file && path.isEmpty && c.isAlpha then [[c, ':']] else path ++ [segment]
    | _ => path ++ [segment]

/-- The path that segments lead to. -/
def resolve (file : Bool) : List (List Char) → List (List Char) → List (List Char)
  | path, [] => path
  | path, [s] => walk file true path s
  | path, s :: rest => resolve file (walk file false path s) rest

/-- A tab or a line break; URLs are read as if these were not there. -/
def isIgnored (c : Char) : Bool := c == '\t' || c == '\n' || c == '\r'

/-- Drops an empty segment at the end, unless it is the only one. -/
def popEmpty (path : List (List Char)) : List (List Char) :=
  if 1 < path.length && path.getLast? = some [] then path.dropLast else path

/-- Appends a text as one segment. The texts `.` and `..` are left out;
one that only becomes a dot segment by losing its tabs leads where dots
lead. A path of one empty segment counts as no path yet. -/
def pushSegment (special file : Bool) (path : List (List Char)) (text : List Char) :
    List (List Char) :=
  if text = ['.'] || text = ['.', '.'] then path
  else
    let start := if path = [[]] then [] else path
    walk file true start
      (Percent.encode (Percent.inSegment special) (text.filter fun c => !isIgnored c))

/-- Appends texts as segments to the path of a URL; an opaque path takes
none. -/
def extendPath (u : Url) (texts : List (List Char)) : Option Url :=
  match u.path with
  | .flat _ => none
  | .segments parts =>
    let file := u.scheme == "file".toList
    some { u with path := .segments (texts.foldl (pushSegment u.isSpecial file) (popEmpty parts)) }

/-! ## Queries -/

/-- A pair as a form writes it. -/
def pairText (key value : String) : List Char :=
  Percent.encodeForm key ++ '=' :: Percent.encodeForm value

/-- Appends a pair to a query. -/
def appendPair (query : List Char) (pair : String × String) : List Char :=
  (if query.isEmpty then [] else query ++ ['&']) ++ pairText pair.1 pair.2

/-- Appends pairs to the query of a URL. -/
def appendPairs (u : Url) (pairs : List (String × String)) : Url :=
  { u with query := some (pairs.foldl appendPair (u.query.getD [])) }

/-! ## Text -/

/-- User name and password, with the sign that ends them. -/
def userinfoText (u : Url) : List Char :=
  if u.username.isEmpty && u.password.isEmpty then []
  else u.username ++ (if u.password.isEmpty then [] else ':' :: u.password) ++ ['@']

/-- The text of a path. -/
def pathText : UrlPath → List Char
  | .segments parts => parts.flatMap ('/' :: ·)
  | .flat text => text

/-- What stands between scheme and path. A path that starts with an empty
segment is kept apart from the scheme by a dot if there is no host. -/
def authorityText (u : Url) : List Char :=
  match u.host, u.path with
  | some host, _ =>
    ['/', '/'] ++ u.userinfoText ++ host.text ++
      (u.port.map fun p => ':' :: Nat.toDigits 10 p).getD []
  | none, .segments ([] :: _ :: _) => ['/', '.']
  | none, _ => []

/-- The text of a URL. -/
def text (u : Url) : String :=
  String.ofList (u.scheme ++ ':' :: u.authorityText ++ pathText u.path ++
    (u.query.map ('?' :: ·)).getD [] ++ (u.fragment.map ('#' :: ·)).getD [])

end Url

end Telemetry
