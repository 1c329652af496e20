/-!
# Files — folders

The files and folders below one folder. A path is the list of names that
leads to a file; whatever a path goes through is a folder.
-/

namespace Telemetry

/-- The names that lead to a file or folder. -/
abbrev FilePath := List String

/-- The files and folders below one folder, each with its path. -/
structure Folder where
  files : List FilePath
  folders : List FilePath
  deriving DecidableEq, Repr

namespace Folder

/-- Nothing. -/
def empty : Folder := ⟨[], []⟩

/-- Where a path begins: at the root if a slash stands in front of it, else in the folder
that it is followed from. -/
def origin (here : FilePath) (path : String) : FilePath :=
  if path.toList.head? = some '/' then [] else here

/-- Whether a folder stands at a path. -/
def isFolder (f : Folder) (p : FilePath) : Bool := p.isEmpty || f.folders.contains p

/-- Whether anything stands at a path. -/
def exists? (f : Folder) (p : FilePath) : Bool := f.isFolder p || f.files.contains p

/-- The paths of a path's folders, the outermost first, and its own. -/
def stages (p : FilePath) : List FilePath := (List.range p.length).map fun n => p.take (n + 1)

/-- Makes a folder and all folders on the way to it, unless a file stands
in the way. -/
def makeFolder (f : Folder) (p : FilePath) : Option Folder :=
  if (stages p).any f.files.contains then none
  else some { f with folders := f.folders ++ (stages p).filter fun q => !f.folders.contains q }

/-- Makes the folders that a path leads through, from a folder on: `.` stays, `..` goes
back. What is there then, and where the path leads, unless a file stands in the way. -/
def makePath (f : Folder) : List String → FilePath → Option (Folder × FilePath)
  | [], p => some (f, p)
  | s :: rest, p =>
    if s.isEmpty || s = "." then f.makePath rest p
    else if s = ".." then f.makePath rest p.dropLast
    else
      match f.makeFolder (p ++ [s]) with
      | none => none
      | some made => made.makePath rest (p ++ [s])

/-- Puts a file at a path, unless something stands there. -/
def putFile (f : Folder) (p : FilePath) : Folder :=
  if f.exists? p then f else { f with files := f.files ++ [p] }

/-- Removes a file; folders stay. -/
def removeFile (f : Folder) (p : FilePath) : Folder := { f with files := f.files.filter (· ≠ p) }

/-- The names in a folder, in ascending order. -/
def names (f : Folder) (p : FilePath) : List String :=
  let inside := (f.files ++ f.folders).filter fun q =>
    q.length == p.length + 1 && q.take p.length == p
  (inside.filterMap List.getLast?).eraseDups.mergeSort fun a b => decide (a ≤ b)

end Folder

end Telemetry
