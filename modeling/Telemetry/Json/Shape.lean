import Telemetry.Json.Document
/-!
# Json — shapes

Reading typed values out of JSON. Two readers share one notion of a
record: one reads held `Value`s, whose objects are ascending and free of
duplicates, the other reads a `Document` in text order and reports
whichever comes first, a fault of the text or a wrong shape.

A record is an object of its fields, in any order and with others
ignored, or a list of its fields in declaration order, where trailing
optional fields may be missing.
-/

namespace Telemetry

namespace Json

/-- How a well-formed value fails to have the shape asked for. -/
inductive ShapeError where
  | invalidType (found : Found) (expected : String)
  | invalidValue (found : Found) (expected : String)
  | invalidLength (length : Nat) (expected : String)
  | missingField (name : String)
  | duplicateField (name : String)
  | unknownVariant (name : String) (expected : List String)
  | other (message : String)

/-- A name between backquotes. -/
def named (s : String) : String := "`" ++ s ++ "`"

/-- The wording of a shape error. -/
def ShapeError.message : ShapeError → String
  | .invalidType found expected => "invalid type: " ++ found.message ++ ", expected " ++ expected
  | .invalidValue found expected => "invalid value: " ++ found.message ++ ", expected " ++ expected
  | .invalidLength n expected => "invalid length " ++ toString n ++ ", expected " ++ expected
  | .missingField name => "missing field " ++ named name
  | .duplicateField name => "duplicate field " ++ named name
  | .unknownVariant name expected =>
    "unknown variant " ++ named name ++ ", expected one of " ++
      String.intercalate ", " (expected.map named)
  | .other message => message

/-- Why JSON text gives no typed value. -/
inductive Error where
  | fault (f : Fault)
  | shape (e : ShapeError)

/-- The kind of an error: the text is no JSON, it ended too early, or its
data have the wrong shape. -/
def Error.category : Error → String
  | .fault .malformed => "syntax"
  | .fault .cutShort => "eof"
  | .shape _ => "data"

/-! ## Held values -/

/-- A kind of whole number with its name in messages. -/
structure IntKind where
  name : String
  least : Int
  greatest : Int

def IntKind.i64 : IntKind := ⟨"i64", -0x8000000000000000, 0x7FFFFFFFFFFFFFFF⟩
def IntKind.u64 : IntKind := ⟨"u64", 0, 0xFFFFFFFFFFFFFFFF⟩
def IntKind.u32 : IntKind := ⟨"u32", 0, 0xFFFFFFFF⟩
def IntKind.usize : IntKind := ⟨"usize", 0, 0xFFFFFFFFFFFFFFFF⟩

namespace Value

/-- A wrong type, for a value that is not of the expected one. -/
def mismatch {α : Type} (expected : String) (v : Value) : Except ShapeError α :=
  .error (.invalidType v.found expected)

def readText : Value → Except ShapeError String
  | .text s => .ok s
  | v => v.mismatch "a string"

def readBool : Value → Except ShapeError Bool
  | .bool b => .ok b
  | v => v.mismatch "a boolean"

def readInt (kind : IntKind) : Value → Except ShapeError Int
  | .int n =>
    if kind.least ≤ n ∧ n ≤ kind.greatest then .ok n else .error (.invalidValue (.int n) kind.name)
  | v => v.mismatch kind.name

/-- A float; integers are rounded to one. -/
def readFloat : Value → Except ShapeError Binary64
  | .float x => .ok x
  | .int n => .ok (Binary64.ofInt n)
  | v => v.mismatch "f64"

/-- Null or a value. -/
def readOption {α : Type} (read : Value → Except ShapeError α) :
    Value → Except ShapeError (Option α)
  | .null => .ok none
  | v => (read v).map some

def readList {α : Type} (read : Value → Except ShapeError α) :
    Value → Except ShapeError (List α)
  | .list items => items.mapM read
  | v => v.mismatch "a sequence"

/-- A map from texts, in the order of its keys. -/
def readMap {α : Type} (read : Value → Except ShapeError α) :
    Value → Except ShapeError (List (String × α))
  | .object fields => fields.mapM fun f => (read f.2).map (f.1, ·)
  | v => v.mismatch "a map"

/-- One of a few names: a text, or an object of one name and null. -/
def readName {α : Type} (names : List (String × α)) (v : Value) : Except ShapeError α :=
  let pick (s : String) : Except ShapeError α :=
    match names.lookup s with
    | some a => .ok a
    | none => .error (.unknownVariant s (names.map Prod.fst))
  match v with
  | .text s => pick s
  | .object [(s, content)] => do
    let a ← pick s
    match content with
    | .null => return a
    | _ => content.mismatch "unit"
  | .object _ => .error (.invalidValue .map "map with a single key")
  | _ => v.mismatch "string or map"

end Value

/-! ## Records -/

/-- What a record is called, which fields it has, and what a draft of it
comes to once every field has been read. -/
structure Outline (δ τ : Type) where
  /-- The record's name in messages. -/
  name : String
  /-- The fields in declaration order. -/
  fields : List String
  /-- The record of a draft, or the first required field that is missing. -/
  finish : δ → Except String τ

namespace Outline

variable {δ τ : Type}

/-- What the record is called in messages. -/
def title (s : Outline δ τ) : String := "struct " ++ s.name

/-- The error for a list that ends before a required field. -/
def tooShort (s : Outline δ τ) (missing : String) : ShapeError :=
  .invalidLength (s.fields.idxOf missing)
    (s.title ++ " with " ++ toString s.fields.length ++
      (if s.fields.length = 1 then " element" else " elements"))

/-- The record of a list's draft. -/
def finishList (s : Outline δ τ) (d : δ) : Except ShapeError τ :=
  match s.finish d with
  | .ok r => .ok r
  | .error missing => .error (s.tooShort missing)

/-- The record of an object's draft. -/
def finishObject (s : Outline δ τ) (d : δ) : Except ShapeError τ :=
  match s.finish d with
  | .ok r => .ok r
  | .error missing => .error (.missingField missing)

end Outline

/-- A record read field by field into a draft. -/
structure Shape (ν ε δ τ : Type) extends Outline δ τ where
  /-- The draft before any field. -/
  blank : δ
  /-- Reads one field into the draft; an unknown one changes nothing. -/
  set : δ → String → ν → Except ε δ

/-- Reads a record out of a held value. -/
def Value.readRecord {δ τ : Type} (s : Shape Value ShapeError δ τ) (v : Value) :
    Except ShapeError τ :=
  match v with
  | .object fields => do s.finishObject (← fields.foldlM (fun d f => s.set d f.1 f.2) s.blank)
  | .list items => do
    let r ← s.finishList (← (s.fields.zip items).foldlM (fun d f => s.set d f.1 f.2) s.blank)
    if s.fields.length < items.length then
      .error (.invalidLength items.length "fewer elements in array")
    else .ok r
  | v => v.mismatch s.title

/-! ## Documents -/

/-- Nesting deeper than this is refused where a value is wanted. -/
def maxDepth : Nat := 127

mutual

/-- The value of a document, with so many levels of nesting left. -/
def Document.toValue (depth : Nat) : Document → Except Fault Value
  | .null => .ok .null
  | .bool b => .ok (.bool b)
  | .number n => match n.value with
    | some v => .ok v
    | none => .error .malformed
  | .text s => s.map .text
  | .torn b => .error b.wanted
  | .list items stop =>
    match depth with
    | 0 => .error .malformed
    | depth + 1 => do
      let vs ← listToValue depth items
      match stop with
      | none => return .list vs
      | some b => .error b.wanted
  | .object fields stop =>
    match depth with
    | 0 => .error .malformed
    | depth + 1 => do
      let fs ← fieldsToValue depth fields
      match stop with
      | none => return Value.ofFields fs
      | some b => .error b.wanted

def Document.listToValue (depth : Nat) : List Document → Except Fault (List Value)
  | [] => .ok []
  | d :: rest => do
    let v ← d.toValue depth
    return v :: (← listToValue depth rest)

def Document.fieldsToValue (depth : Nat) :
    List (Except Fault String × Document) → Except Fault (List (String × Value))
  | [] => .ok []
  | (key, d) :: rest => do
    let k ← key
    let v ← d.toValue depth
    return (k, v) :: (← fieldsToValue depth rest)

end

mutual

/-- The fault met when passing over a document. -/
def Document.passing : Document → Option Fault
  | .torn b => some b.passing
  | .list items stop => (listPassing items).or (stop.map Break.passing)
  | .object fields stop => (fieldsPassing fields).or (stop.map Break.passing)
  | _ => none

def Document.listPassing : List Document → Option Fault
  | [] => none
  | d :: rest => d.passing.or (listPassing rest)

def Document.fieldsPassing : List (Except Fault String × Document) → Option Fault
  | [] => none
  | (_, d) :: rest => d.passing.or (fieldsPassing rest)

end

/-- The value of a JSON text. -/
def Value.ofText (s : String) : Except Fault Value := do
  let page := Page.ofText s
  let v ← page.root.toValue maxDepth
  if page.trailing then .error .malformed else return v

namespace Document

/-- What a document is, for a message; scalars have to be read for that. -/
def found : Document → Except Fault Found
  | .null => .ok .null
  | .bool b => .ok (.bool b)
  | .number n => match n.value with
    | some v => .ok v.found
    | none => .error .malformed
  | .text s => s.map .text
  | .torn b => .error b.wanted
  | .list _ _ => .ok .sequence
  | .object _ _ => .ok .map

/-- A wrong type, unless the document is broken before it can be named. -/
def mismatch {α : Type} (expected : String) (d : Document) : Except Error α :=
  match d.found with
  | .ok found => .error (.shape (.invalidType found expected))
  | .error f => .error (.fault f)

/-- A text, called `expected` in messages. -/
def readTextAs (expected : String) : Document → Except Error String
  | .text (.ok s) => .ok s
  | d => d.mismatch expected

def readText (d : Document) : Except Error String := d.readTextAs "a string"

def readBool : Document → Except Error Bool
  | .bool b => .ok b
  | d => d.mismatch "a boolean"

def readInt (kind : IntKind) (d : Document) : Except Error Int :=
  match d with
  | .number n =>
    match n.value with
    | some v => match v.readInt kind with
      | .ok k => .ok k
      | .error e => .error (.shape e)
    | none => .error (.fault .malformed)
  | d => d.mismatch kind.name

/-- Null or a value. -/
def readOption {α : Type} (read : Document → Except Error α) :
    Document → Except Error (Option α)
  | .null => .ok none
  | d => (read d).map some

def readList {α : Type} (read : Document → Except Error α) (d : Document) :
    Except Error (List α) :=
  match d with
  | .list items stop => do
    let xs ← items.mapM read
    match stop with
    | none => return xs
    | some b => .error (.fault b.wanted)
  | d => d.mismatch "a sequence"

/-- Reads the fields of an object in text order. A field that comes twice
is refused where its key stands the second time. -/
def readFields {δ τ : Type} (s : Shape Document Error δ τ) (seen : List String) (draft : δ) :
    List (Except Fault String × Document) → Except Error δ
  | [] => .ok draft
  | (key, d) :: rest =>
    match key with
    | .error f => .error (.fault f)
    | .ok k =>
      if k ∈ s.fields then
        if k ∈ seen then .error (.shape (.duplicateField k))
        else do readFields s (k :: seen) (← s.set draft k d) rest
      else match d.passing with
        | some f => .error (.fault f)
        | none => readFields s seen draft rest

/-- Reads a record out of a document. -/
def readRecord {δ τ : Type} (s : Shape Document Error δ τ) (d : Document) : Except Error τ :=
  match d with
  | .object fields stop => do
    let draft ← readFields s [] s.blank fields
    match stop with
    | some b => .error (.fault b.wanted)
    | none => match s.finishObject draft with
      | .ok r => .ok r
      | .error e => .error (.shape e)
  | .list items stop => do
    let draft ← (s.fields.zip items).foldlM (fun d f => s.set d f.1 f.2) s.blank
    if s.fields.length < items.length then
      match s.finishList draft with
      | .ok _ => .error (.fault .malformed)
      | .error e => .error (.shape e)
    else match stop with
      | some b => .error (.fault b.wanted)
      | none => match s.finishList draft with
        | .ok r => .ok r
        | .error e => .error (.shape e)
  | d => d.mismatch s.title

end Document

/-- Reads a typed value straight from a text. -/
def readText {α : Type} (read : Document → Except Error α) (s : String) : Except Error α := do
  let page := Page.ofText s
  let a ← read page.root
  if page.trailing then .error (.fault .malformed) else return a

end Json

end Telemetry
