import DocViewer.Disk.Tree
import DocViewer.Host.Wide
import DocViewer.Tool

/-!
# Processes and open files

The system holds the disk and the streams that are open. A process reaches the streams by the numbers of its
descriptors; several descriptors, also of several processes, can lead to one stream, and then share the place in it
where reading and writing goes on.
-/

namespace DocViewer.Host

/-- What is open. -/
inductive Stream
  /-- Bytes that are read from the front. -/
  | source (left : Bytes)
  /-- Takes what is written, the last piece first, as long as there is room. -/
  | sink (pieces : List Bytes) (room : Option Nat)
  /-- A file at a place, and the place in it. What is appended goes to its end. -/
  | file (place : Place) (offset : Nat) (reads writes appends : Bool)
  | directory
  | nowhere

structure System where
  disk : Disk
  streams : Array Stream := #[]
  /-- Signals that wait for a process that runs others. -/
  signals : List (Nat × Nat) := []
  /-- The processes that run, or wait for others. -/
  running : List Nat := []
  /-- The number of the next process. -/
  nextProcess : Nat := 3

namespace System

/-- Opens a stream, and gives its number. -/
def opened (s : System) (stream : Stream) : Nat × System :=
  (s.streams.size, { s with streams := s.streams.push stream })

def stream (s : System) (id : Nat) : Stream := s.streams[id]?.getD .nowhere

def setStream (s : System) (id : Nat) (stream : Stream) : System :=
  { s with streams := s.streams.setIfInBounds id stream }

/-- The bytes of the file at a place. -/
def fileData (s : System) (place : Place) : Bytes :=
  match s.disk.entry? place with
  | some (.file data _) => data
  | _ => []

/-- What a sink took. -/
def collected (s : System) (id : Nat) : Bytes :=
  match s.stream id with
  | .sink pieces _ => pieces.reverse.flatten
  | _ => []

end System

/-- Bytes written over others from an offset on; a gap is filled with zeros. -/
def overwrite (data : Bytes) (offset : Nat) (b : Bytes) : Bytes :=
  data.take offset ++ List.replicate (offset - data.length) 0 ++ b ++ data.drop (offset + b.length)

structure Process where
  system : System
  /-- The descriptors with the streams that they lead to. -/
  descriptors : List (Nat × Nat) := []
  /-- How the process ended, if it ended on the way. -/
  ended : Option ExitStatus := none

namespace Process

def streamOf? (p : Process) (descriptor : Nat) : Option Nat := p.descriptors.lookup descriptor

/-- Makes a descriptor lead to a stream. -/
def attach (p : Process) (descriptor id : Nat) : Process :=
  { p with descriptors := (descriptor, id) :: p.descriptors.filter (·.1 ≠ descriptor) }

def detach (p : Process) (descriptor : Nat) : Process :=
  { p with descriptors := p.descriptors.filter (·.1 ≠ descriptor) }

/-- Opens a stream behind a descriptor. -/
def openStream (p : Process) (descriptor : Nat) (stream : Stream) : Process :=
  let (id, system) := p.system.opened stream
  { p with system }.attach descriptor id

/-! ## Writing -/

/-- The signal for a process that writes to a pipe that nobody reads. -/
def brokenPipe : Nat := 13

/-- Writes to a stream. -/
def writeTo (p : Process) (id : Nat) (b : Bytes) : Except Fault Process :=
  match p.system.stream id with
  | .sink pieces none => .ok { p with system := p.system.setStream id (.sink (b :: pieces) none) }
  | .sink pieces (some room) =>
    let p := { p with system := p.system.setStream id (.sink (b.take room :: pieces) (some (room - b.length))) }
    .ok (if room < b.length then { p with ended := some (.signal brokenPipe) } else p)
  | .nowhere => .ok p
  | .file place offset reads true appends =>
    let data := p.system.fileData place
    let offset := if appends then data.length else offset
    let system := p.system.setStream id (.file place (offset + b.length) reads true appends)
    .ok { p with system := { system with disk := system.disk.put place (overwrite data offset b) } }
  | _ => .error .badDescriptor

/-- Writes to a descriptor. A process that has ended writes nothing. -/
def write (p : Process) (descriptor : Nat) (b : Bytes) : Except Fault Process :=
  if p.ended.isSome || b.isEmpty then .ok p
  else
    match p.streamOf? descriptor with
    | some id => p.writeTo id b
    | none => .error .badDescriptor

/-- Writes what was held back, and gives what could not be written. -/
def flush (p : Process) (descriptor : Nat) (b : Bytes) : Bytes × Process :=
  match p.write descriptor b with
  | .ok p => ([], p)
  | .error _ => (b, p)

/-- Writes a message, if it can be written. -/
def warn (p : Process) (message : Text) : Process := (p.write 2 (narrow message)).toOption.getD p

/-! ## Reading -/

/-- What is left to be read behind a descriptor. -/
def remaining (p : Process) (descriptor : Nat) : Except Fault Bytes :=
  match (p.streamOf? descriptor).map p.system.stream with
  | some (.source left) => .ok left
  | some (.file place offset true _ _) => .ok ((p.system.fileData place).drop offset)
  | some .directory => .error .isADirectory
  | some .nowhere => .ok []
  | _ => .error .badDescriptor

/-- Goes on behind the next bytes. -/
def skip (p : Process) (descriptor count : Nat) : Process :=
  match p.streamOf? descriptor with
  | some id =>
    match p.system.stream id with
    | .source left => { p with system := p.system.setStream id (.source (left.drop count)) }
    | .file place offset reads writes appends =>
      { p with system := p.system.setStream id (.file place (offset + count) reads writes appends) }
    | _ => p
  | none => p

/-- Whether the bytes behind a descriptor can be put back. -/
def rewinds (p : Process) (descriptor : Nat) : Bool :=
  match (p.streamOf? descriptor).map p.system.stream with
  | some (.file ..) => true
  | _ => false

/-- Reads all that is left. -/
def readAll (p : Process) (descriptor : Nat) : Except Fault (Bytes × Process) :=
  (p.remaining descriptor).map fun b => (b, p.skip descriptor b.length)

/-! ## Opening files -/

/-- The descriptor that the path of a device names. -/
def deviceDescriptor? (path : Text) : Option Nat :=
  match dropPrefix? "/dev/".toList path with
  | some name =>
    match String.ofList name with
    | "stdin" => some 0
    | "stdout" => some 1
    | "stderr" => some 2
    | _ => (dropPrefix? "fd/".toList name).bind fun digits => (String.ofList digits).toNat?
  | none => none

/-- How a file is opened. -/
inductive Mode
  | read
  /-- For writing, with nothing in it. -/
  | create
  /-- For writing, but not if the file is there already. -/
  | createNew
  | append
  | update
  deriving DecidableEq

/-- Opens the file at a path, and gives the number of its stream. -/
def openFile (p : Process) (mode : Mode) (path : Text) : Except Fault (Nat × Process) :=
  let opened (stream : Stream) : Except Fault (Nat × Process) :=
    let (id, system) := p.system.opened stream
    .ok (id, { p with system })
  let create (path : Text) (keep appends : Bool) : Except Fault (Nat × Process) := do
    let place ← p.system.disk.locateNew path
    let data := if keep then p.system.fileData place else []
    let (id, system) := p.system.opened (.file place 0 (mode = .update) true appends)
    return (id, { p with system := { system with disk := system.disk.put place data } })
  if path = "/dev/null".toList then opened .nowhere
  else
    match deviceDescriptor? path with
    | some descriptor =>
      match p.streamOf? descriptor with
      | some id => .ok (id, p)
      | none => .error .missing
    | none =>
      match mode with
      | .read => do
        match ← p.system.disk.find path with
        | .directory => opened .directory
        | .unreadable fault => .error fault
        | .file .. => opened (.file (← p.system.disk.locate path) 0 true false false)
      | .create => create path false false
      | .createNew => if (p.system.disk.find path).toBool then .error .alreadyThere else create path false false
      | .append => create path true true
      | .update => create path true false

end Process

end DocViewer.Host
