import DocViewer.Host.Script.Builtin.Basic

/-!
# Signals

`kill` sends signals and `trap` tells what is run when they come. A signal that the shell sends to itself is answered
before the next statement; one for a process that waits is answered when the waiting ends.
-/

namespace DocViewer.Script

open Host

/-- The names of signals by their numbers; number 0 stands for the end of a shell. -/
def signalNames : List Text :=
  (["EXIT", "HUP", "INT", "QUIT", "ILL", "TRAP", "ABRT", "BUS", "FPE", "KILL", "USR1", "SEGV", "USR2", "PIPE", "ALRM",
    "TERM", "STKFLT", "CHLD", "CONT", "STOP", "TSTP", "TTIN", "TTOU", "URG", "XCPU", "XFSZ", "VTALRM", "PROF", "WINCH",
    "IO", "PWR", "SYS", "32", "33", "RTMIN"].map String.toList) ++
    (List.range 15).map (fun n => "RTMIN+".toList ++ decimal (n + 1)) ++
    (List.range 14).map (fun n => "RTMAX-".toList ++ decimal (14 - n)) ++ ["RTMAX".toList]

/-- The signal that a number or a name means, no lower than the one given. -/
def signalOf? (least : Nat) (t : Text) : Option Nat :=
  if !t.isEmpty && t.all Char.isDigit then
    (String.ofList t).toNat?.bind fun n => if n < signalNames.length then some n else none
  else
    ((signalNames.drop least).findIdx? fun name => name = t.map Char.toUpper).map (· + least)

/-- Signals that do nothing to a process that has no answer to them. -/
def harmlessSignals : List Nat := [17, 18, 23, 28]

/-- How a process that a signal has ended is called. -/
def signalTexts : List (Nat × String) :=
  [(1, "Hangup"), (2, "Interrupt"), (3, "Quit"), (4, "Illegal instruction"), (5, "Trace/breakpoint trap"),
    (6, "Aborted"), (7, "Bus error"), (8, "Floating point exception"), (9, "Killed"), (10, "User defined signal 1"),
    (11, "Segmentation fault"), (12, "User defined signal 2"), (13, "Broken pipe"), (14, "Alarm clock"),
    (15, "Terminated"), (16, "Stack fault"), (24, "CPU time limit exceeded"), (25, "File size limit exceeded"),
    (26, "Virtual timer expired"), (27, "Profiling timer expired"), (29, "I/O possible"), (30, "Power failure"),
    (31, "Bad system call")]

def signalText (n : Nat) : Text :=
  match signalTexts.lookup n with
  | some text => text.toList
  | none =>
    if 34 ≤ n then "Real-time signal ".toList ++ decimal (n - 34) else "Unknown signal ".toList ++ decimal n

/-- Takes a signal that comes. -/
def receive (signal : Nat) : Act Unit := do
  if signal = 0 then return
  match (← get).traps.lookup signal with
  | some action =>
    if signal = 9 || signal = 19 then throw (.killed signal)
    if !action.isEmpty then
      modify fun sh => { sh with pending := if sh.pending.contains signal then sh.pending else signal :: sh.pending }
  | none => if !harmlessSignals.contains signal then throw (.killed signal)

/-- Takes the signals that came while the process was waiting. -/
def receiveWaiting : Act Unit := do
  let sh ← get
  let mine := (sh.system.signals.filter (·.1 = sh.process)).map (·.2)
  if mine.isEmpty then return
  modify fun sh => { sh with system.signals := sh.system.signals.filter (·.1 ≠ sh.process) }
  for signal in mine.reverse do receive signal

def killUsage : Text :=
  "Usage: kill [-s sigspec | -signum | -sigspec] [pid | job]... or\nkill -l [exitstatus]".toList

/-- Sends a signal to each process named. -/
def sendSignal (signal : Nat) : List Text → (status : Nat) → Act Nat
  | [], status => return status
  | target :: targets, status => do
    let number ← match target with
      | '%' :: _ => fail ("No such job: ".toList ++ target)
      | '-' :: digits => numberOf digits
      | digits => numberOf digits
    let sh ← get
    if number = sh.process || number = 0 then
      receive signal
      sendSignal signal targets status
    else if sh.system.running.contains number then
      if signal ≠ 0 then
        modify fun sh => { sh with system.signals := (number, signal) :: sh.system.signals }
      sendSignal signal targets status
    else
      warn "No such process\n".toList
      sendSignal signal targets 1

/-- Shows the names of signals. -/
def listSignals : List Text → Act Nat
  | [] => print ("0\n".toList ++ (signalNames.drop 1).flatMap fun name => name ++ ['\n'])
  | status :: _ => do
    let n ← numberOf status
    let n := if 128 < n then n - 128 else n
    match signalNames[n]? with
    | some name => if n = 0 then bad status else print (name ++ ['\n'])
    | none => bad status
where
  bad (status : Text) : Act Nat := fail ("invalid signal number or exit status: ".toList ++ status)

def kill : Builtin := fun args => do
  let send (signal : Nat) (targets : List Text) : Act Nat :=
    if targets.isEmpty then fail killUsage else sendSignal signal targets 0
  match args with
  | [] => fail killUsage
  | ('-' :: spec) :: targets =>
    match signalOf? 1 spec with
    | some signal => send signal targets
    | none =>
      let (options, targets) ← optionsOf [('l', false), ('s', true)] args
      let signals ← (options.filter (·.1 = 's')).mapM fun (_, name) =>
        match signalOf? 1 name with
        | some signal => pure signal
        | none => fail ("invalid signal number or name: ".toList ++ name)
      if options.any (·.1 = 'l') then
        if signals.isEmpty then listSignals targets else fail killUsage
      else send (signals.getLast?.getD 15) targets
  | targets => send 15 targets

def setTraps (action : Option Text) : List Text → Act Nat
  | [] => return 0
  | name :: names => do
    match signalOf? 0 name with
    | none =>
      tell ("trap: ".toList ++ name ++ ": bad trap\n".toList)
      return 1
    | some signal =>
      modify fun sh =>
        let others := sh.traps.filter (·.1 ≠ signal)
        { sh with traps := match action with
          | some action => (signal, action) :: others
          | none => others }
      setTraps action names

def trap : Builtin := fun args => do
  match ← operandsOf args with
  | [] =>
    let sh ← get
    let lines := (List.range signalNames.length).flatMap fun n =>
      match sh.traps.lookup n with
      | some action => "trap -- ".toList ++ quoted action ++ ' ' :: (signalNames.getD n []) ++ ['\n']
      | none => []
    print lines
  | [name] => setTraps none [name]
  | action :: names =>
    if !action.isEmpty && action.all Char.isDigit && (signalOf? 0 action).isSome then setTraps none (action :: names)
    else setTraps (if action = ['-'] then none else some action) names

/-- How signals are answered by a process that another one starts: those that are not to be answered stay so. -/
def inheritedTraps (traps : List (Nat × Text)) : List (Nat × Text) :=
  traps.filter fun (signal, action) => signal ≠ 0 && action.isEmpty

end DocViewer.Script
