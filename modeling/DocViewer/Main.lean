import DocViewer.CommandLine.Run
import DocViewer.Gzip.Member
import DocViewer.Host.Machine

/-!
# The program

The program sees the files below its working directory and below the root of the documentation. It runs on them, prints
what the run wrote, and writes the files that the run changed. All that it decides is in `CommandLine.run`.
-/

namespace DocViewer

/-- Whether a file is a script that names its interpreter. -/
def isScript (data : Bytes) : Bool := [0x23, 0x21].isPrefixOf data

/-- The file at a path of the system. -/
def fileAt? (path : String) : IO (Option Entry) := do
  try
    let data := (← IO.FS.readBinFile path).toList
    return some (.file data (isScript data))
  catch
    | .noFileOrDirectory .. => return none
    | .permissionDenied .. => return some (.unreadable .denied)
    | e => return some (.unreadable (.other e.toString.toList))

/-- The files and directories below a directory of the system, which is at a place of the disk, so many levels deep. -/
def entriesBelow (place : Place) (path : String) : (depth : Nat) → IO (List (Place × Entry))
  | 0 => return []
  | depth + 1 => do
    let mut found := []
    for child in ← (← IO.FS.realPath path).readDir do
      let childPlace := child.fileName.toList :: place
      let childPath := path ++ "/" ++ child.fileName
      try
        if ← child.path.isDir then
          found := found ++ (childPlace, Entry.directory) :: (← entriesBelow childPlace childPath depth)
        else
          found := found ++ (← fileAt? childPath).toList.map (childPlace, ·)
      catch _ => pure ()
    return found

/-- How many levels of directories the program sees. -/
def depthLimit : Nat := 8

/-- Adds what is below a directory to a disk, if there is such a directory. -/
def addBelow (disk : Disk) (path : Text) : IO Disk := do
  let name := String.ofList path
  try
    let place := disk.place path
    let below ← entriesBelow place name depthLimit
    let disk := disk.makeDirectory place
    return { disk with entries := disk.entries ++ below }
  catch _ => return disk

/-- The disk with the files that a run on the arguments sees. -/
def loadDisk (environment : List (Text × Text)) (args : List Text) : IO Disk := do
  let home := (Path.names (← IO.currentDir).toString.toList).filter (!·.isEmpty) |>.reverse
  let disk ← addBelow (Disk.empty home) ['.']
  match CommandLine.Invocation.ofArguments environment args with
  | .ok i => if Path.isAbsolute i.config.stlRoot then addBelow disk i.config.stlRoot else return disk
  | .error _ => return disk

/-- All that is left of a stream. -/
partial def readAll (stream : IO.FS.Stream) (read : ByteArray) : IO ByteArray := do
  let chunk ← stream.read 65536
  if chunk.isEmpty then return read else readAll stream (read ++ chunk)

/-- The path of a place from the root. -/
def systemPath (place : Place) : String := String.ofList ('/' :: ['/'].intercalate place.reverse)

/-- Writes the files that a run has changed. -/
def saveDisk (before after : Disk) : IO Unit := do
  for (place, entry) in after.entries do
    match entry with
    | .file data _ =>
      if before.entry? place ≠ some entry then IO.FS.writeBinFile (systemPath place) ⟨data.toArray⟩
    | .directory | .unreadable _ => pure ()

/-- The variables of the environment that a run looks at. -/
def variableNames : List String :=
  ["GMAN_STL_ROOT", "GMAN_FORMATTER", "GMAN_MAN", "GMAN_SECTIONS", "RUST_LOG", "PATH"]

def loadEnvironment : IO (List (Text × Text)) := do
  let given ← variableNames.filterMapM fun name => do
    return (← IO.getEnv name).map fun value => (name.toList, value.toList)
  return given ++ Host.environment

end DocViewer

open DocViewer in
def main (args : List String) : IO UInt32 := do
  let environment ← loadEnvironment
  let disk ← loadDisk environment (args.map String.toList)
  let stdin ← if args.contains "shell" then readAll (← IO.getStdin) .empty else pure .empty
  let surroundings : CommandLine.Surroundings :=
    { environment, stdin := stdin.toList, tools := Host.tools environment, fetcher := Host.fetcher,
      inflate := Gzip.contents, disk }
  let result := CommandLine.run surroundings (args.map String.toList)
  let stdout ← IO.getStdout
  stdout.write ⟨result.stdout.toArray⟩
  stdout.flush
  (← IO.getStderr).write ⟨(encode result.stderr).toArray⟩
  saveDisk disk result.disk
  return result.code.toUInt32
