import Telemetry.Files.Glob
import Telemetry.Text.Split
import Telemetry.Time.Instant
/-!
# Logging — log files and their rotation

Each run of a program writes a log file of its own, named for the program
and the time it started. Before a run the oldest files of the program are
removed; which are the oldest is told by their names alone.
-/

namespace Telemetry

namespace Logging

/-- What a clock on the wall shows. -/
structure WallTime where
  date : Time.Date
  hour : Nat
  minute : Nat
  second : Nat
  deriving DecidableEq, Repr

/-- The time stamp of a file name, `YYYYmmdd_HHMMSS`. -/
def WallTime.stamp (t : WallTime) : List Char :=
  let two := Time.Instant.padded 2
  Time.Instant.yearText t.date.year ++ two t.date.month ++ two t.date.day ++
    '_' :: two t.hour ++ two t.minute ++ two t.second

/-- The name of the log file of a run. -/
def fileName (app : String) (started : WallTime) : String :=
  app ++ "-" ++ String.ofList started.stamp ++ ".log"

/-- The last name of a path. -/
def lastName (p : FilePath) : String := p.getLast?.getD ""

/-- The log files of a program in the folder that a path leads to, the latest
name first. -/
def logFiles (f : Folder) (start : FilePath) (dir : List String) (app : String) : List FilePath :=
  (Glob.find f start (dir ++ Text.splitString '/' (app ++ "-*.log"))).mergeSort fun a b =>
    decide (lastName b ≤ lastName a)

/-- **Removes all but the first so many log files** of a program: what is
left, and the files removed, in order. A folder that is named like a log
file counts as one, but stays. -/
def rotate (f : Folder) (start : FilePath) (dir : List String) (app : String) (keep : Nat) :
    Folder × List FilePath :=
  let old := ((logFiles f start dir app).drop keep).filter fun p => f.files.contains p
  (old.foldl Folder.removeFile f, old)

end Logging

end Telemetry
