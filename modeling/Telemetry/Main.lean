import Telemetry.CommandLine.Arguments
import Telemetry.Logging.Setup
import Telemetry.Session.Basic
/-!
# The program

Follows a feed and writes what it shows to the log. The program opens no
sockets itself. It takes what they bring from standard input, one frame a
line: the node, a blank, and the text of the frame. With `--seed` the
first line of each node is its snapshot. The session ends with the input.
-/

namespace Telemetry

namespace Program

/-- The name in front of a log file. -/
def name : String := "live_tail"

/-- The version of the program. -/
def version : String := "0.1.0"

/-- The help text. -/
def usage : String :=
  "Headless tail of live cluster telemetry\n\nUsage: " ++ name ++ " [OPTIONS]\n\nOptions:\n" ++
    String.join (CommandLine.Setting.all.map fun s =>
      "  --" ++ s.word ++ " <VALUE>  [env: " ++ s.environmentName ++ "]\n") ++
    "  --" ++ CommandLine.Switch.oneShot.word ++ "\n  --" ++ CommandLine.Switch.seed.word ++
    "\n  -h, --help\n  -V, --version\n"

/-- The wording of a refused command line. -/
def stopMessage : CommandLine.Stop → String
  | .help => usage
  | .version => name ++ " " ++ version
  | .unknown argument => "error: unexpected argument '" ++ argument ++ "' found"
  | .repeated word => "error: the argument '--" ++ word ++ "' cannot be used multiple times"
  | .missingValue s => "error: a value is required for '--" ++ s.word ++ "' but none was supplied"
  | .badChoice s value | .badValue s value =>
    "error: invalid value '" ++ value ++ "' for '--" ++ s.word ++ "'"
  | .unneededValue word => "error: unexpected value for '--" ++ word ++ "' found"

/-- The wording of a configuration error. -/
def configMessage : Config.Error → String
  | .file f => "cannot read configuration: " ++ f.name
  | .json (.shape e) => Config.shapeMessage e
  | .json e => "failed to parse configuration: " ++ e.category
  | .url e => Config.urlMessage e
  | .invalid p => Config.problemMessage p

/-- The wording of a load error. -/
def loadMessage : CommandLine.LoadError → String
  | .missing path => CommandLine.missingMessage path
  | .config e => configMessage e

/-- The wording of a setup error. -/
def setupMessage : Logging.SetupError → String
  | .folder => "cannot create log directory"
  | .filter level => Logging.filterMessage level
  | .file => "cannot begin the log file"
  | .again => "logging is set up already"

/-- Node and text of a line of the input. -/
def splitLine (line : String) : String × String :=
  let cs := line.toList
  (String.ofList (cs.takeWhile (· != ' ')), String.ofList ((cs.dropWhile (· != ' ')).drop 1))

variable {ι τ ρ ω : Type}

/-- A session, and the nodes whose snapshots it waits for. -/
structure Desk (ι τ ρ : Type) where
  live : Aggregate.Live ι τ ρ
  awaited : List Location

namespace Desk

/-- Lets events happen, and reports on them. -/
def perform (f : Feed ι τ ρ ω) (s : Aggregate.Setting ι τ ρ ω) (d : Desk ι τ ρ)
    (events : List (Aggregate.Live.Event ι)) : Desk ι τ ρ × List Session.Report :=
  let o := d.live.steps s 0 events
  ({ d with live := o.live }, Session.reports f o.shown)

/-- The first line of the session: everything is connected at once. -/
def opening (f : Feed ι τ ρ ω) (s : Aggregate.Setting ι τ ρ ω) (d : Desk ι τ ρ) :
    Desk ι τ ρ × List Session.Report :=
  let links := d.live.board.sources.length
  d.perform f s (Session.opening d.live (!d.awaited.isEmpty) ++
    (List.range links).flatMap fun i => [.stimulus i .start, .stimulus i (.dialed (.ok ()))])

/-- A frame of the connection of a node. -/
def frame (f : Feed ι τ ρ ω) (s : Aggregate.Setting ι τ ρ ω) (d : Desk ι τ ρ) (node : Location)
    (text : String) : Desk ι τ ρ × List Session.Report :=
  match d.live.board.index? node with
  | none => (d, [])
  | some i =>
    let link := d.live.first + i
    let epoch := (d.live.links[link]?.map fun k => k.connection.epoch).getD 0
    d.perform f s [.stimulus link (.frame epoch (.text text))]

/-- The snapshot of a node; after the last one the gates open. -/
def snapshot (f : Feed ι τ ρ ω) (s : Aggregate.Setting ι τ ρ ω) (d : Desk ι τ ρ) (node : Location)
    (text : String) : Desk ι τ ρ × List Session.Report :=
  let found := Snapshot.ofResponse f.read ⟨200, Text.encode text⟩
  let (events, warnings) := Session.seeding d.live node found
  let (d, shown) := { d with awaited := d.awaited.erase node }.perform f s events
  if d.awaited.isEmpty then
    let (d, opened) := d.perform f s (Session.seeded d.live)
    (d, warnings ++ shown ++ opened)
  else (d, warnings ++ shown)

/-- A line of the input. -/
def line (f : Feed ι τ ρ ω) (s : Aggregate.Setting ι τ ρ ω) (d : Desk ι τ ρ) (text : String) :
    Desk ι τ ρ × List Session.Report :=
  let (node, text) := splitLine text
  match Config.readNode node with
  | .error _ => (d, [])
  | .ok l => if d.awaited.contains l then d.snapshot f s l text else d.frame f s l text

end Desk

/-! ## Input and output -/

/-- Writes log lines to every place they go to. -/
def writeLines (filter : Logging.Filter) (outputs : List IO.FS.Stream)
    (reports : List Session.Report) : IO Unit := do
  for r in reports do
    let fields := "message".toList :: r.fields.map fun f => f.1.toList
    if filter.shows r.level Session.Report.target fields then
      for o in outputs do
        o.putStrLn r.line
        o.flush

/-- Reads the input to its end. -/
partial def follow (input : IO.FS.Stream) (write : List Session.Report → IO Unit)
    (f : Feed ι τ ρ ω) (s : Aggregate.Setting ι τ ρ ω) (d : Desk ι τ ρ) : IO (Desk ι τ ρ) := do
  let text ← input.getLine
  if text.isEmpty then return d
  let (d, reports) := d.line f s text
  write reports
  follow input write f s d

/-- Runs a session over the input. -/
def tail (c : Config) (seed : Bool) (write : List Session.Report → IO Unit)
    (f : Feed ι τ ρ ω) : IO UInt32 := do
  match Session.liveEndpoint c f.kind with
  | .error e =>
    IO.eprintln ("Error: " ++ e.message)
    return 1
  | .ok e =>
    let s := Session.setting c f e
    let desk : Desk ι τ ρ := ⟨Session.fresh c f e, if seed then c.nodes else []⟩
    let (d, reports) := desk.opening f s
    write (reports ++ [Session.begun c f.kind])
    let d ← follow (← IO.getStdin) write f s d
    let (_, reports) := d.perform f s d.live.closeAll
    write (reports ++ [.ended f.kind])
    return 0

/-- What stands at the place of a file. -/
def look (path : String) : IO Config.Stored := do
  try
    return .file (← IO.FS.readBinFile path).toList
  catch
    | .noFileOrDirectory .. => return .nothing
    | _ => return .directory

/-- The time, in UTC. -/
def now : IO Logging.WallTime := do
  let (_, path) ← IO.FS.createTempFile
  let seconds := (← path.metadata).modified.sec
  IO.FS.removeFile path
  let ofDay := (seconds % 86400).toNat
  return ⟨.ofDays (seconds / 86400), ofDay / 3600, ofDay / 60 % 60, ofDay % 60⟩

/-- Removes old log files from a folder and begins a new one. Without a path, old
files are looked for at the root, and the new one is begun right here. -/
def beginLog (o : Logging.Options) (dir : String) : IO IO.FS.Stream := do
  if !dir.isEmpty then IO.FS.createDirAll dir
  let entries ← (← IO.FS.realPath (dir ++ "/")).readDir
  let folder : Folder := ⟨entries.toList.map fun e => [e.fileName], []⟩
  let (_, old) := Logging.rotate folder [] [] o.appName o.keepFiles
  for path in old do
    IO.FS.removeFile (dir ++ "/" ++ Logging.lastName path)
  let place := if dir.isEmpty then "" else dir ++ "/"
  let handle ← IO.FS.Handle.mk (place ++ Logging.fileName o.appName (← now)) .append
  return .ofHandle handle

/-- Sets up logging and runs a session. -/
def run (c : Config) (choices : CommandLine.Choices) : IO UInt32 := do
  let o : Logging.Options := ⟨name, c.logging.level, c.logging.dir, c.logging.keepFiles⟩
  match Logging.chooseFilter o (← IO.getEnv "RUST_LOG") with
  | .error e =>
    IO.eprintln ("Error: " ++ setupMessage e)
    return 1
  | .ok filter =>
    let file ← o.dir.mapM (beginLog o)
    let write := writeLines filter ((← IO.getStdout) :: file.toList)
    match choices.feedKind with
    | .etl => tail c choices.seed write .etl
    | .logs => tail c choices.seed write .logs
    | .nodes => tail c choices.seed write .nodes

/-- Starts the program with its arguments. -/
def start (arguments : List String) : IO UInt32 := do
  let environment ← CommandLine.Setting.all.mapM fun s => do
    return (s.environmentName, ← IO.getEnv s.environmentName)
  match CommandLine.read arguments fun v => (environment.lookup v).join with
  | .error stop =>
    if stop = .help ∨ stop = .version then
      IO.println (stopMessage stop)
      return 0
    else
      IO.eprintln (stopMessage stop)
      return 2
  | .ok choices =>
    let stored ← look (choices.configPath.getD CommandLine.standardPath)
    match CommandLine.load choices fun _ => stored with
    | .error e =>
      IO.eprintln ("Error: " ++ loadMessage e)
      return 1
    | .ok c => run c choices

end Program

end Telemetry

def main (arguments : List String) : IO UInt32 := Telemetry.Program.start arguments
