import DocViewer.Disk.Fault
import DocViewer.Disk.Path
import DocViewer.Text.Utf8

/-!
# The disk

A disk maps places to files and directories. A path leads to a place by walking from directory to directory
(`Disk.locate`); each name on the way has to exist, and a name after a file, even an empty one, is a fault. A file may
be there that cannot be opened.
-/

namespace DocViewer

/-- The names that lead from the root to a file or directory, the last one first. -/
abbrev Place := List Text

inductive Entry
  | file (data : Bytes) (executable : Bool)
  /-- A file that cannot be opened, and why. -/
  | unreadable (fault : Fault)
  | directory
  deriving DecidableEq

structure Disk where
  /-- Everything but the root directory. -/
  entries : List (Place × Entry)
  /-- The working directory. -/
  home : Place
  /-- Files that are open to be written, which cannot be started as programs. -/
  busy : List Place := []

namespace Disk

/-- What is at a place. -/
def entry? (d : Disk) (place : Place) : Option Entry :=
  if place.isEmpty then some .directory else d.entries.lookup place

/-- The longest name, and the longest path with the mark that ends it, in bytes. -/
def nameLimit : Nat := 255
def pathLimit : Nat := 4096

/-- Follows names from a place. -/
def walk (d : Disk) (place : Place) : List Text → Except Fault Place
  | [] => .ok place
  | name :: rest =>
    match d.entry? place with
    | none => .error .missing
    | some (.file ..) | some (.unreadable _) => .error .notADirectory
    | some .directory =>
      if name.isEmpty || name = ['.'] then d.walk place rest
      else if name = ['.', '.'] then d.walk place.tail rest
      else if nameLimit < (encode name).length then .error .nameTooLong
      else if (d.entry? (name :: place)).isSome then d.walk (name :: place) rest
      else .error .missing

/-- Where a path starts. -/
def base (d : Disk) (path : Text) : Place := if Path.isAbsolute path then [] else d.home

/-- What is wrong with the text of a path. -/
def flaw? (path : Text) : Option Fault :=
  if path.contains '\x00' then some .nulInPath
  else if path.isEmpty then some .missing
  else if pathLimit ≤ (encode path).length then some .nameTooLong
  else none

/-- The place that a path leads to. -/
def locate (d : Disk) (path : Text) : Except Fault Place :=
  match flaw? path with
  | some fault => .error fault
  | none => d.walk (d.base path) (Path.names path)

/-- What a path leads to. -/
def find (d : Disk) (path : Text) : Except Fault Entry := do
  let place ← d.locate path
  match d.entry? place with
  | some entry => .ok entry
  | none => .error .missing

def isFile (d : Disk) (path : Text) : Bool :=
  match d.find path with
  | .ok (.file ..) | .ok (.unreadable _) => true
  | _ => false

def isDirectory (d : Disk) (path : Text) : Bool :=
  match d.find path with
  | .ok .directory => true
  | _ => false

/-- The bytes of a file. -/
def read (d : Disk) (path : Text) : Except Fault Bytes :=
  match d.find path with
  | .ok (.file data _) => .ok data
  | .ok (.unreadable fault) => .error fault
  | .ok .directory => .error .isADirectory
  | .error fault => .error fault

/-- The names in a directory with what they lead to. -/
def children (d : Disk) (place : Place) : List (Text × Entry) :=
  d.entries.filterMap fun (p, entry) =>
    match p with
    | name :: parent => if parent = place then some (name, entry) else none
    | [] => none

/-! ## Changing the disk -/

/-- Puts an entry at a place, in place of what was there. -/
def set (d : Disk) (place : Place) (entry : Entry) : Disk :=
  { d with entries := d.entries.filter (·.1 ≠ place) ++ [(place, entry)] }

/-- The place of a path to be written: its directory has to exist, and it is no directory itself and no file that cannot
be opened. -/
def locateNew (d : Disk) (path : Text) : Except Fault Place :=
  match flaw? path with
  | some fault => .error fault
  | none =>
    match ((Path.names path).filter (!·.isEmpty)).reverse with
    | [] => .error .isADirectory
    | name :: above => do
      let place ← d.walk (d.base path) above.reverse
      if d.entry? place ≠ some .directory then .error .notADirectory
      else if path.getLast? = some '/' || name = ['.'] || name = ['.', '.'] then .error .isADirectory
      else if nameLimit < (encode name).length then .error .nameTooLong
      else
        match d.entry? (name :: place) with
        | some .directory => .error .isADirectory
        | some (.unreadable fault) => .error fault
        | _ => .ok (name :: place)

/-- Sets the bytes of the file at a place; a new file is no program. -/
def put (d : Disk) (place : Place) (data : Bytes) : Disk :=
  match d.entry? place with
  | some (.file _ executable) => d.set place (.file data executable)
  | _ => d.set place (.file data false)

/-- Writes a file. -/
def write (d : Disk) (path : Text) (data : Bytes) : Except Fault Disk := (d.locateNew path).map (d.put · data)

/-- Makes the directories on the way to a place and the last one, where there is nothing yet. -/
def makeDirectory (d : Disk) : Place → Disk
  | [] => d
  | name :: place =>
    let d := d.makeDirectory place
    if (d.entry? (name :: place)).isSome then d else d.set (name :: place) .directory

/-- The place that a path means, whether or not there is anything. -/
def place (d : Disk) (path : Text) : Place :=
  (Path.names path).foldl
    (fun place name =>
      if name.isEmpty || name = ['.'] then place else if name = ['.', '.'] then place.tail else name :: place)
    (d.base path)

/-- Puts an entry at a path and makes the directories on the way to it. -/
def install (d : Disk) (path : Text) (entry : Entry) : Disk :=
  match d.place path, entry with
  | place, .directory => d.makeDirectory place
  | place, entry => (d.makeDirectory place.tail).set place entry

/-- Removes what a path leads to, with all that is below. -/
def remove (d : Disk) (path : Text) : Disk :=
  let place := d.place path
  { d with entries := d.entries.filter fun (p, _) => !place.isSuffixOf p }

/-- A disk with nothing but the working directory. -/
def empty (home : Place) : Disk := makeDirectory { entries := [], home } home

end Disk

end DocViewer
