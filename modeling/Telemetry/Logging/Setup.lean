import Telemetry.Logging.Filter
import Telemetry.Logging.Rotation
/-!
# Logging — setting up

Logging is set up once in the life of a process. The filter of the
environment goes before the one asked for, unless it cannot be read. If
lines go to a folder, the folder is made, old files are removed and a new
one is begun before it is known whether logging was set up already.

The path of the folder may be empty. Then the file is begun in the folder
the process works in, but old files are looked for at the root: a slash is
all that stands in front of their pattern.
-/

namespace Telemetry

namespace Logging

/-- How logging is set up. -/
structure Options where
  /-- What the names of log files start with. -/
  appName : String
  /-- The filter to use unless the environment has one. -/
  level : String
  /-- The folder of the log files; without one, lines are only printed. -/
  dir : Option String
  /-- How many older files stay. -/
  keepFiles : Nat
  deriving DecidableEq, Repr

/-- Level `info`, no files. -/
def Options.standard : Options := ⟨"live_tail", "info", none, 1⟩

/-- Why logging could not be set up. -/
inductive SetupError where
  /-- The folder could not be made. -/
  | folder
  | filter (level : String)
  /-- The log file could not be begun, which ends the program. -/
  | file
  /-- It is set up already. -/
  | again
  deriving DecidableEq, Repr

/-- The words for a filter that cannot be read. -/
def filterMessage (level : String) : String := "invalid log filter '" ++ level ++ "'"

/-- What setting up sees and changes. -/
structure Process where
  installed : Option Filter
  /-- The filter of the environment. -/
  environment : Option String
  /-- The folder that the process works in. -/
  cwd : FilePath
  /-- All files and folders. -/
  folder : Folder

/-- The filter to use. -/
def chooseFilter (o : Options) (environment : Option String) : Except SetupError Filter :=
  match environment.bind Filter.ofText with
  | some f => .ok f
  | none =>
    match Filter.ofText o.level with
    | some f => .ok f
    | none => .error (.filter o.level)

/-- Makes the folder, removes old files and begins a new one, with the folders on
the way to it: what is there after that, and the path of the file. -/
def beginFile (o : Options) (dir : String) (now : WallTime) (cwd : FilePath) (f : Folder) :
    Folder × Except SetupError FilePath :=
  let path := Text.splitString '/' dir
  match f.makePath path (Folder.origin cwd dir) with
  | none => (f, .error .folder)
  | some (made, home) =>
    let kept := (rotate made (Folder.origin cwd (dir ++ "/")) path o.appName o.keepFiles).1
    let name := fileName o.appName now
    let names := Text.splitString '/' name
    match kept.makePath names.dropLast (Folder.origin home name) with
    | none => (kept, .error .file)
    | some (ready, place) =>
      let file := place ++ [lastName names]
      if ready.isFolder file then (ready, .error .file) else (ready.putFile file, .ok file)

/-- **Sets up logging**: the process after that, and the log file, if
there is one. -/
def setUp (o : Options) (now : WallTime) (p : Process) :
    Process × Except SetupError (Option FilePath) :=
  match chooseFilter o p.environment with
  | .error e => (p, .error e)
  | .ok filter =>
    match o.dir with
    | none =>
      match p.installed with
      | some _ => (p, .error .again)
      | none => ({ p with installed := some filter }, .ok none)
    | some dir =>
      let (folder, begun) := beginFile o dir now p.cwd p.folder
      match begun, p.installed with
      | .error e, _ => ({ p with folder := folder }, .error e)
      | .ok _, some _ => ({ p with folder := folder }, .error .again)
      | .ok file, none => ({ p with installed := some filter, folder := folder }, .ok (some file))

end Logging

end Telemetry
