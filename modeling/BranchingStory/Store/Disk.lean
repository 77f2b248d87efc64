import BranchingStory.Entries
import BranchingStory.Text.Newline
import BranchingStory.Text.Order

/-!
# Disks

A disk holds the files of a data directory: folders by their paths, and files with their
texts.  A file is written into a folder that is there; a path may be in the way of
another one.
-/

namespace BranchingStory

/-- The names that lead to a file or a folder. -/
abbrev Path := List Text

/-- The files and folders below a data directory, in the order in which they were made. -/
structure Disk where
  files : List (Path × Text)
  folders : List Path
  deriving Repr, DecidableEq

namespace Disk

/-- Why a file cannot be read or written, or a folder not be made. -/
inductive Fault where
  /-- There is nothing at the path. -/
  | absent
  /-- A folder stands where a file is asked for. -/
  | isFolder
  /-- A file stands where a folder is asked for. -/
  | isFile
  /-- The path leads on from a file. -/
  | belowFile
  deriving Repr, DecidableEq

/-- A disk with nothing on it. -/
def empty : Disk := ⟨[], []⟩

/-- The text of the file at a path. -/
def file? (d : Disk) (p : Path) : Option Text :=
  Entries.get? d.files p

/-- Whether a file is at a path. -/
def hasFile (d : Disk) (p : Path) : Bool :=
  (d.file? p).isSome

/-- Whether a folder is at a path; the data directory is one. -/
def hasFolder (d : Disk) (p : Path) : Bool :=
  p.isEmpty || d.folders.contains p

/-- The paths of the folders around a path, the outermost first. -/
def around (p : Path) : List Path :=
  (List.range p.length).map fun n => p.take n

/-- Whether a path leads on from a file. -/
def leadsThroughFile (d : Disk) (p : Path) : Bool :=
  (around p).any d.hasFile

/-- Reads the file at a path, with its newlines unified. -/
def read (d : Disk) (p : Path) : Except Fault Text :=
  match d.file? p with
  | some t => .ok (Text.unifyNewlines t)
  | none =>
    if d.hasFolder p then .error .isFolder
    else if d.leadsThroughFile p then .error .belowFile
    else .error .absent

/-- Makes a folder and those around it, as far as they are not there. -/
def makeFolder (d : Disk) (p : Path) : Except Fault Disk :=
  if d.hasFolder p then .ok d
  else if d.hasFile p then .error .isFile
  else if d.leadsThroughFile p then .error .belowFile
  else
    .ok { d with folders := d.folders ++ ((around p ++ [p]).filter fun q => !d.hasFolder q) }

/-- Writes a file into a folder that is there. -/
def write (d : Disk) (p : Path) (t : Text) : Except Fault Disk :=
  if d.hasFolder p then .error .isFolder
  else if d.leadsThroughFile p then .error .belowFile
  else if d.hasFolder p.dropLast then .ok { d with files := Entries.put p t d.files }
  else .error .absent

/-- Writes a file and makes the folders around it. -/
def store (d : Disk) (p : Path) (t : Text) : Except Fault Disk := do
  (← d.makeFolder p.dropLast).write p t

/-- Takes the file at a path away. -/
def remove (d : Disk) (p : Path) : Disk :=
  { d with files := Entries.erase p d.files }

/-- The paths of the files and folders right inside a folder. -/
def inside (d : Disk) (folder : Path) : List Path :=
  (d.files.map (·.1) ++ d.folders).filter fun p => !p.isEmpty && p.dropLast == folder

/-- A path as one text. -/
def pathText (p : Path) : Text :=
  List.intercalate ['/'] p

/-- The paths of all files, in order. -/
def listing (d : Disk) : List Text :=
  (d.files.map fun f => pathText f.1).mergeSort Text.isAtMost

end Disk

end BranchingStory
