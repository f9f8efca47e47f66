import DocViewer.Host.Launch
import DocViewer.Host.Script.Builtin.Signals
import DocViewer.Host.Script.Expansion
import DocViewer.Host.Script.Reading

/-!
# Texts and processes of a shell

How a shell runs a text as a script, how it ends, and how it runs a part of a script in a process of its own, whose
output can be taken or passed on.
-/

namespace DocViewer.Script

open Host

/-! ## Texts -/

/-- How a text is run. -/
structure Manner where
  tested : Bool := false
  /-- How deep its statements can be nested. -/
  depth : Nat
  /-- Whether its lines can be shown as they are read. -/
  shown : Bool := false

/-- Runs the lines of a source, and gives the status of the last statement; `status` is that of the one before. -/
def runLines (go : Go) (m : Manner) (status : Nat) : (fuel : Nat) → Source → Act Nat
  | 0, _ => return status
  | fuel + 1, source => do
    let sh ← get
    let before := source.text
    match readLine m.depth { source with aliases := sh.aliases, documents := [], nextDocument := sh.nextDocument } with
    | .error mistake =>
      modify fun sh => { sh with line := mistake.line }
      fail ("Syntax error: ".toList ++ mistake.message)
    | .ok (line, source) =>
      set { sh with documents := source.documents ++ sh.documents, nextDocument := source.nextDocument }
      if m.shown && sh.flags.contains 'v' then tell (before.take (before.length - source.text.length))
      match line with
      | .finish => return status
      | .empty => runLines go m status fuel source
      | .statement s =>
        go { tested := m.tested } s
        runLines go m (← get).status fuel source

/-- Runs a text. -/
def runText (go : Go) (tested : Bool) (t : Text) (shown : Bool := false) : Act Nat :=
  runLines go { tested, depth := readingDepth t, shown } 0 (t.length + 1) { text := t }

/-- How a text that the shell itself evaluates is read: as the text of a document. -/
def documentWord (t : Text) : Word :=
  match readParts (readingDepth t) .document [] { text := t } with
  | .ok (parts, _) => Word.ofReversed parts
  | .error _ => [.quoted t]

/-! ## Signals -/

/-- Answers one signal. -/
def answer (go : Go) (signal : Nat) : Act Unit := do
  let sh ← get
  match sh.traps.lookup signal with
  | some action =>
    set { sh with leavingStatus := some sh.status }
    let _ ← runText go false action
    modify fun after => { after with status := sh.status, leavingStatus := sh.leavingStatus }
  | none => return

def answerAll (go : Go) : List Nat → Act Unit
  | [] => return
  | signal :: signals => do
    answer go signal
    answerAll go signals

/-- Answers the signals that came. -/
def answerSignals (go : Go) : Act Unit := do
  let pending := (← get).pending
  if !pending.isEmpty then
    modify fun sh => { sh with pending := [] }
    answerAll go (pending.mergeSort (· ≤ ·))

/-! ## The end of a shell -/

/-- How a shell ends that has left its script: what is to be run at the end is run first. -/
def conclude (go : Go) (result : Except Jump Unit) (sh : Shell) : ExitStatus × Shell :=
  let code (status : Nat) (sh : Shell) : ExitStatus × Shell := (.code (status % 256), sh)
  match result, (sh.traps.lookup 0).filter (!·.isEmpty) with
  | .error (.killed n), _ => (.signal n, sh)
  | _, none => code sh.status sh
  | _, some action =>
    let status := sh.status
    let sh := { sh with traps := sh.traps.filter (·.1 ≠ 0), leavingStatus := some status }
    match (runText go false action : Act Nat) sh with
    | (.error (.killed n), sh) => (.signal n, sh)
    | (.error .leave, sh) => code sh.status sh
    | (.error .failed, sh) => code sh.status sh
    | (_, sh) => code status sh

/-! ## Children -/

/-- Runs an action in a process of its own, and gives how it ended. The working directory and all the state of the
shell stay as they were. -/
def runChild (go : Go) (change : Shell → Shell) (a : Act Unit) : Act ExitStatus := fun sh =>
  let number := sh.system.nextProcess
  let child := change { sh with
    process := number
    traps := inheritedTraps sh.traps
    pending := []
    jobs := []
    system.nextProcess := number + 1
    system.running := number :: sh.system.running }
  let (result, child) := a child
  let (status, child) := conclude go result child
  (.ok status,
    { sh with system := { child.system with
        disk.home := sh.system.disk.home
        running := child.system.running.filter (· ≠ number) } })

/-- Runs statements that nothing follows in their process. -/
def goLast (go : Go) (tested : Bool) (s : Statement) : Act Unit := go { tested, last := true } s

/-- The status that a shell sees of a process that ended; if a signal ended it, this is told. -/
def seen (status : ExitStatus) : Act Nat := do
  match status with
  | .code n => return n
  | .signal n =>
    if n ≠ 2 && n ≠ 13 then tell (signalText n ++ ['\n'])
    return 128 + n

/-- Runs statements and gives what they print. -/
def substitute (go : Go) : Substitute := fun s => do
  let (id, system) := (← get).system.opened (.sink [] none)
  modify fun sh => { sh with system }
  let status ← runChild go (fun sh => { sh with toProcess := sh.toProcess.attach 1 id }) (goLast go false s)
  receiveWaiting
  let substituted ← seen status
  modify fun sh => { sh with substituted }
  return (← get).system.collected id

/-! ## Pipes -/

/-- How much a pipe holds. -/
def pipeRoom : Nat := 65536

/-- How often a pipe is made larger for a reader that reads all. -/
def pipeGrowth : Nat := 12

/-- What a process leaves in a pipe. -/
def leftover : Stream → Nat
  | .source left => left.length
  | _ => 0

/-- Whether a pipe is full. -/
def isFull : Stream → Bool
  | .sink _ (some 0) => true
  | _ => false

/-- Runs two actions of which the first writes what the second reads. The first one runs until it has ended or the pipe
is full, which ends it if the second one stops reading; if this one has read all, both are run again with more room. -/
def runPiped (left : Act ExitStatus) (right : Act (List ExitStatus)) : (growth room : Nat) → Act (List ExitStatus)
  | growth, room => do
    let before ← get
    let (id, system) := before.system.opened (.sink [] (some room))
    set { before with toProcess := { before.toProcess with system }.attach 1 id }
    let status ← left
    let system := (← get).system
    let full := isFull (system.stream id)
    let (source, system) := system.opened (.source (system.collected id))
    set { before with toProcess := { before.toProcess with system }.attach 0 source }
    let statuses ← right
    let after ← get
    if full && leftover (after.system.stream source) = 0 then
      match growth with
      | 0 => pure ()
      | growth + 1 =>
        set before
        return ← runPiped left right growth (8 * room)
    set { before with system := after.system }
    return status :: statuses

/-- Runs the commands of a pipeline, and gives how they ended. -/
def runPipeline (go : Go) (tested : Bool) : List Statement → Act (List ExitStatus)
  | [] => return []
  | [s] => return [← runChild go id (goLast go tested s)]
  | s :: commands =>
    runPiped (runChild go id (goLast go tested s)) (runPipeline go tested commands) pipeGrowth pipeRoom

end DocViewer.Script
