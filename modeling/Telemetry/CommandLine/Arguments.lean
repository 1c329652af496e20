import Telemetry.CommandLine.Basic
/-!
# Command line — arguments

Reads the arguments from left to right. A name starts with two dashes;
its value follows after an equals sign or as the next argument, which
must not start with a dash itself. A value that stands apart is only read
when the next name is met, so an argument that nobody knows is reported
before the value to its left. What the arguments leave open is looked up
in the environment.
-/

namespace Telemetry

namespace CommandLine

/-- What an argument looks like. -/
inductive Argument where
  /-- Two dashes, a name, and perhaps a value after an equals sign. -/
  | long (word : String) (value : Option String)
  /-- One dash and at least one letter. -/
  | short (letter : Char)
  | plain (text : String)
  deriving DecidableEq, Repr

namespace Argument

/-- The looks of an argument. -/
def ofText (s : String) : Argument :=
  match s.toList with
  | '-' :: '-' :: rest =>
    let word := String.ofList (rest.takeWhile (· != '='))
    match rest.dropWhile (· != '=') with
    | [] => .long word none
    | _ :: value => .long word (some (String.ofList value))
  | '-' :: c :: _ => .short c
  | _ => .plain s

end Argument

/-- What has been read. -/
structure Reading where
  choices : Choices
  /-- The last setting named, whose value may still be missing or has not
  been read yet. -/
  pending : Option (Setting × Option String)

namespace Reading

/-- Reads the value that is pending. Only nodes may be given again. -/
def settle (r : Reading) : Except Stop Choices :=
  match r.pending with
  | none => .ok r.choices
  | some (s, none) => .error (.missingValue s)
  | some (s, some value) =>
    if s ≠ .node ∧ r.choices.has s then .error (.repeated s.word) else r.choices.put s value

/-- What a name stands for. -/
inductive Name where
  | setting (s : Setting)
  | switch (s : Switch)
  | stop (s : Stop)

/-- Looks a name up. -/
def name? (word : String) : Option Name :=
  match Setting.all.find? (·.word = word) with
  | some s => some (.setting s)
  | none =>
    if word = Switch.oneShot.word then some (.switch .oneShot)
    else if word = Switch.seed.word then some (.switch .seed)
    else if word = "help" then some (.stop .help)
    else if word = "version" then some (.stop .version)
    else none

/-- A name was met, perhaps with a value after an equals sign. -/
def meet (r : Reading) (name : Name) (word : String) (value : Option String) :
    Except Stop Reading :=
  match name, value with
  | .setting s, some v => do
    return ⟨← (⟨← r.settle, some (s, some v)⟩ : Reading).settle, none⟩
  | .setting s, none => do return ⟨← r.settle, some (s, none)⟩
  | _, some _ => .error (.unneededValue word)
  | .switch s, none => do
    let c ← r.settle
    if c.isOn s then throw (.repeated word) else return ⟨c.turnOn s, none⟩
  | .stop reason, none => do
    let _ ← r.settle
    throw reason

/-- Reads one argument. -/
def next (r : Reading) (text : String) : Except Stop Reading :=
  match Argument.ofText text with
  | .long word value =>
    match name? word with
    | some name => r.meet name word value
    | none => .error (.unknown text)
  | .short 'h' => r.meet (.stop .help) "help" none
  | .short 'V' => r.meet (.stop .version) "version" none
  | .short _ => .error (.unknown text)
  | .plain value =>
    match r.pending with
    | some (s, none) => .ok ⟨r.choices, some (s, some value)⟩
    | _ => .error (.unknown text)

/-- Reads arguments. Two dashes alone say that no names follow; as every
value has a name, nothing may follow at all. -/
def run (r : Reading) : List String → Except Stop Choices
  | [] => r.settle
  | text :: rest =>
    if text = "--" then
      match rest with
      | [] => r.settle
      | next :: _ => .error (.unknown next)
    else do run (← r.next text) rest

end Reading

/-- Takes the settings that are still open from the environment. -/
def fill (environment : String → Option String) (c : Choices) : Except Stop Choices :=
  Setting.all.foldlM (fun c s =>
    match environment s.environmentName with
    | some value => if c.has s then .ok c else c.put s value
    | none => .ok c) c

/-- **Reads a command line** and, for what it leaves open, the
environment. -/
def read (arguments : List String) (environment : String → Option String) :
    Except Stop Choices := do
  fill environment (← (⟨.none, none⟩ : Reading).run arguments)

/-- Why there is no configuration. -/
inductive LoadError where
  /-- A file was named that is not there. -/
  | missing (path : String)
  | config (e : Config.Error)

/-- The words for a file that is not there. -/
def missingMessage (path : String) : String := "config file not found: " ++ path

/-- The file that is read if none is named. -/
def standardPath : String := "live_tail.json"

/-- **The configuration that was asked for**: the values given here over
those of the file, or over the standard ones if no file was named and the
usual one is not there. Only the outcome has to keep the rules. -/
def load (c : Choices) (look : String → Config.Stored) : Except LoadError Config := do
  let base ← match c.configPath, look (c.configPath.getD standardPath) with
    | some path, .nothing => .error (.missing path)
    | none, .nothing => .ok Config.standard
    | _, stored => (Config.ofStored stored).mapError .config
  let config := base.overlay c.overrides
  config.validate.mapError .config
  return config

end CommandLine

end Telemetry
