import DocViewer.Host.Script.Builtin.Input
import DocViewer.Host.Script.Builtin.Printing
import DocViewer.Host.Script.Builtin.Testing
import DocViewer.Host.Script.Redirecting
import DocViewer.Host.Script.Start

/-!
# Simple commands

A simple command is run by a function, by the shell itself or by a program. Its words are expanded first, then its
redirections are opened, and then its assignments are done, which hold only for the command if there is one.
-/

namespace DocViewer.Script

open Host

/-! ## Programs -/

/-- A program as a shell finds it. An error comes with the status for it. -/
def Shell.programNamed (sh : Shell) (environment : Environment) (search name : Text) (args : List Text) :
    Except (Fault × Nat) Ready :=
  let d := sh.system.disk
  let statusOf (fault : Fault) : Nat :=
    if [Fault.missing, .notADirectory, .tooManyLevels, .nameTooLong].contains fault then 127 else 126
  let resolve (path : Text) : Except Fault Ready := resolvedScript d environment (pathOf path) name args
  if name.contains '/' then (resolve name).mapError fun fault => (fault, statusOf fault)
  else
    let paths := candidates search name
    let rest := paths.dropWhile fun path => !d.isFile (pathOf path)
    if rest.isEmpty then
      .error (if paths.any fun path => (d.find (pathOf path)).toBool then .denied else .missing, 127)
    else
      match rest.findSome? fun path => (resolve path).toOption with
      | some ready => .ok ready
      | none =>
        let faults := rest.filterMap fun path => match resolve path with
          | .error fault => if fault = .missing || fault = .notADirectory then none else some fault
          | .ok _ => none
        let fault := faults.getLast?.getD .missing
        .error (fault, statusOf fault)

/-- What a message says about a program that cannot be started. -/
def programFault (fault : Fault) : Text :=
  if fault = .missing || fault = .notADirectory then "not found".toList else faultText fault

/-- Starts a program and waits for its end; none if it does not start, which is told. -/
def runProgram (go : Go) (search name : Text) (args : List Text) : Act (Option ExitStatus) := do
  let sh ← get
  let environment := sh.vars.environment
  match sh.programNamed environment search name args with
  | .error (fault, status) =>
    warn (name ++ ": ".toList ++ programFault fault)
    setStatus status
    return none
  | .ok ready =>
    let (status, p) := Host.start (startShell go) startDepth environment ready sh.toProcess
    set { sh with system := { p.system with disk.home := sh.system.disk.home } }
    return some status

/-! ## Commands of the shell -/

/-- Ends the shell with a status. -/
def exitShell : Builtin := fun args => do
  let sh ← get
  setStatus (← match args with
    | n :: _ => numberOf n
    | [] => pure (sh.leavingStatus.getD sh.status))
  throw .leave

/-- Ends the function or the file at hand. -/
def returnBack : Builtin := fun args => do
  match args with
  | n :: _ => setStatus (← numberOf n)
  | [] => pure ()
  throw .back

/-- Leaves loops; outside of loops it does nothing. -/
def leaveLoops (jump : Nat → Jump) : Builtin := fun args => do
  let count ← match args with
    | n :: _ => do
      let count ← numberOf n
      if count = 0 then badNumber n else pure count
    | [] => pure 1
  let count := min count (← get).loops
  setStatus 0
  if count = 0 then return 0 else throw (jump count)

/-- Evaluates its arguments as a script. -/
def evalArguments (go : Go) (context : Context) : Builtin := fun args =>
  if args.isEmpty then return 0
  else runText go context.tested ([' '].intercalate args)

/-- Runs a file in this shell. -/
def runFile (go : Go) : Builtin := fun args => do
  match ← operandsOf args with
  | [] => return 0
  | name :: _ =>
    let sh ← get
    let path ←
      if name.contains '/' then pure name
      else
        match (candidates sh.search name).find? fun path => sh.system.disk.isFile (pathOf path) with
        | some path => pure path
        | none => fail (name ++ ": not found".toList)
    let text ← readScript path
    modify fun sh => { sh with command := some path }
    let result ← attempt (runText go false text true)
    modify fun after => { after with loops := sh.loops }
    match result with
    | .error .back => return (← get).status
    | result => release result

/-- Becomes another program. -/
def becomeProgram (go : Go) : Builtin := fun args => do
  match ← operandsOf args with
  | [] => return 0
  | name :: args =>
    match ← runProgram go (← get).search name args with
    | some (.signal n) => throw (.killed n)
    | some (.code n) =>
      modify fun sh => { sh with status := n, traps := [] }
      throw .leave
    | none => throw .leave

/-- Waits for jobs in the background, which have all ended. -/
def waitForJobs : (targets : List Text) → (status : Nat) → Act Nat
  | [], status => return status
  | target :: targets, _ => do
    let number ← match target with
      | '%' :: _ => fail ("No such job: ".toList ++ target)
      | digits => numberOf digits
    match (← get).jobs.lookup number with
    | some status =>
      modify fun sh => { sh with jobs := sh.jobs.filter (·.1 ≠ number) }
      waitForJobs targets (← seen status)
    | none => waitForJobs targets 127

/-- Tells nothing but a status. -/
def always (status : Nat) : Builtin := fun _ => return status

def noJob : Builtin := fun _ => fail "No current job".toList

/-- The times that processes took: none at all. -/
def times : Builtin := fun _ =>
  let line := "0m0.000000s 0m0.000000s\n".toList
  print (line ++ line)

/-- The names of the commands of the shell. -/
def builtinNames : List Text :=
  [".", ":", "[", "alias", "bg", "break", "cd", "chdir", "command", "continue", "echo", "eval", "exec", "exit",
    "export", "false", "fg", "getopts", "hash", "jobs", "kill", "local", "printf", "pwd", "read", "readonly", "return",
    "set", "shift", "test", "times", "trap", "true", "type", "ulimit", "umask", "unalias", "unset", "wait"].map
    String.toList

/-- `command` when it does not run one: it tells what a command is. -/
def aboutCommand : Builtin := fun args => do
  let (options, names) ← optionsOf [('p', false), ('v', false), ('V', false)] args
  match (options.filter (·.1 ≠ 'p')).getLast?, names with
  | some (letter, _), name :: _ =>
    if letter = 'v' then locateCommand builtinNames name else describe builtinNames name
  | _, _ => return 0

/-- The command of the shell with a name. -/
def builtinNamed (go : Go) (context : Context) (name : Text) : Builtin :=
  match String.ofList name with
  | "." => runFile go
  | "[" => testInBrackets
  | "alias" => aliasNames
  | "bg" => noJob
  | "break" => leaveLoops .stop
  | "cd" => changeDirectory
  | "chdir" => changeDirectory
  | "command" => aboutCommand
  | "continue" => leaveLoops .again
  | "echo" => echo
  | "eval" => evalArguments go context
  | "exec" => becomeProgram go
  | "exit" => exitShell
  | "export" => exportVariables
  | "false" => always 1
  | "fg" => noJob
  | "getopts" => getOption
  | "hash" => hash builtinNames
  | "kill" => kill
  | "local" => localVariables
  | "printf" => printf
  | "pwd" => showDirectory
  | "read" => readInput
  | "readonly" => fixVariables
  | "return" => returnBack
  | "set" => setArguments
  | "shift" => shiftArguments
  | "test" => test
  | "times" => times
  | "trap" => trap
  | "type" => describeAll builtinNames
  | "ulimit" => fun _ => print "unlimited\n".toList
  | "umask" => setMask
  | "unalias" => unaliasNames
  | "unset" => unsetNames
  | "wait" => fun args => waitForJobs args 0
  | _ => always 0

/-! ## What runs a command -/

inductive Runner
  /-- There is no command. -/
  | nothing
  | function (body : Statement)
  | builtin (name : Text)
  | program

/-- A command that was found. -/
structure Found where
  runner : Runner
  /-- Whether an error in it ends the shell. -/
  special : Bool := false
  /-- The search path, if it is not the usual one. -/
  search : Option Text := none
  args : List Text := []

/-- Words that are expanded one after the other: the texts that are there, and the words that are left. -/
structure Words where
  texts : List Text := []
  words : List Word

/-- Expands words until there is a text. -/
def firstText (substitute : Substitute) : List Word → Act Words
  | [] => return { words := [] }
  | w :: words => do
    match ← expandWord substitute w with
    | [] => firstText substitute words
    | texts => return { texts, words }

/-- The next text, and what follows. -/
def Words.next (substitute : Substitute) (w : Words) : Act (Option (Text × Words)) := do
  let w ← if w.texts.isEmpty then firstText substitute w.words else pure w
  match w.texts with
  | text :: texts => return some (text, { w with texts })
  | [] => return none

/-- All texts that are left; assignments are not cut into fields where they are arguments of a command that assigns. -/
def Words.all (substitute : Substitute) (assigns : Bool) (w : Words) : Act (List Text) := do
  let more ← w.words.mapM fun word =>
    match if assigns then Word.assignment? word else none with
    | some (name, value) => return [← expandAssignment substitute name value]
    | none => expandWord substitute word
  return w.texts ++ more.flatten

/-- What `command` is followed by. -/
inductive Behind
  | command (name : Text) (rest : Words) (search : Option Text)
  /-- It is to be run itself. -/
  | itself (args : List Text) (rest : Words)

/-- Reads what follows `command`; `passed` are the options so far. -/
def behindCommand (substitute : Substitute) (search : Option Text) (passed : List Text) :
    (fuel : Nat) → Words → Act Behind
  | 0, rest => return .itself passed rest
  | fuel + 1, rest => do
    match ← rest.next substitute with
    | none => return .itself passed { words := [] }
    | some (text, rest) =>
      match text with
      | ['-', '-'] =>
        match ← rest.next substitute with
        | some (name, rest) => return .command name rest search
        | none => return .itself (passed ++ [text]) { words := [] }
      | '-' :: c :: letters =>
        if (c :: letters).all (· = 'p') then
          behindCommand substitute (some fallbackSearch) (passed ++ [text]) fuel rest
        else return .itself (passed ++ [text]) rest
      | name => return .command name rest search

/-- Finds what runs a command from its first text on. -/
def findRunner (substitute : Substitute) (behind : Bool) (search : Option Text) :
    (fuel : Nat) → (name : Text) → Words → Act Found
  | 0, name, rest => return { runner := .program, args := name :: (← rest.all substitute false) }
  | fuel + 1, name, rest => do
    let sh ← get
    match if behind then none else sh.functions.lookup name with
    | some body => return { runner := .function body, args := name :: (← rest.all substitute false) }
    | none =>
      if !builtinNames.contains name then
        return { runner := .program, search, args := name :: (← rest.all substitute false) }
      else if name = "command".toList then
        match ← behindCommand substitute search [] (rest.words.length + rest.texts.length + 1) rest with
        | .command name rest search => findRunner substitute true search fuel name rest
        | .itself args rest =>
          return { runner := .builtin name, args := name :: args ++ (← rest.all substitute false) }
      else
        let assigns := ["export", "readonly", "local"].any (·.toList = name)
        let special := !behind && specialCommands.any (·.toList = name)
        return { runner := .builtin name, special, args := name :: (← rest.all substitute assigns) }

/-! ## Running a command -/

/-- How often functions can be nested. -/
def callLimit : Nat := 1000

/-- Calls a function. -/
def callFunction (go : Go) (context : Context) (body : Statement) (arguments : List Text) : Act Unit := do
  let sh ← get
  if callLimit ≤ sh.calls then
    fail ("Maximum function recursion depth (".toList ++ decimal callLimit ++ ") reached".toList)
  set { sh with arguments, loops := 0, calls := sh.calls + 1, optionIndex := 1, lettersRead := none }
  let result ← attempt (go { tested := context.tested } body)
  modify fun after => { after with
    arguments := sh.arguments
    loops := sh.loops
    calls := sh.calls
    optionIndex := sh.optionIndex
    lettersRead := sh.lettersRead }
  match result with
  | .error .back => return
  | result => release result

/-- Runs a command of the shell. An error in a special one goes on to the shell. -/
def runBuiltin (special : Bool) (name : Text) (b : Act Nat) : Act Unit := do
  let sh ← get
  set { sh with command := some name }
  let result ← attempt b
  modify fun after => { after with command := sh.command }
  match result, special with
  | .ok status, _ => setStatus status
  | .error .failed, false =>
    modify fun after =>
      let frames := after.locals.take (after.locals.length - sh.locals.length)
      let after := frames.foldl (fun sh frame => frame.foldl Shell.restore sh) after
      { after with
        locals := after.locals.drop (after.locals.length - sh.locals.length)
        descriptors := sh.descriptors
        loops := sh.loops }
  | .error jump, _ => throw jump

/-- How a process ended that was waited for. A signal ends this process too if it is nothing but that one. -/
def waited (last : Bool) (status : ExitStatus) : Act Unit := do
  receiveWaiting
  match status, last && (← get).traps.isEmpty with
  | .signal n, true => throw (.killed n)
  | status, _ => setStatus (← seen status)

/-- Shows a command before it is run, if that is asked for. -/
def traceCommand (go : Go) (errors : Option Nat) (texts : List Text) : Act Unit := do
  let sh ← get
  if sh.flags.contains 'x' then
    set { sh with flags := sh.flags.filter (· ≠ 'x') }
    let word := documentWord ((sh.vars.value? "PS4".toList).getD [])
    let front ← expandDocument (substitute go) word
    modify fun after => { after with flags := sh.flags, substituted := sh.substituted }
    match errors with
    | some id =>
      let line := front ++ [' '].intercalate texts ++ ['\n']
      modifyProcess fun p => (p.writeTo id (narrow line)).toOption.getD p
    | none => return

/-- Does assignments, and gives them as texts. -/
def assignAll (go : Go) (isLocal exported : Bool) : List (Text × Word) → Act (List Text)
  | [] => return []
  | (name, word) :: assignments => do
    let value ← expandValue (substitute go) word
    if isLocal then makeLocal name
    changeVariable name fun v => { v with value := some value, exported := v.exported || exported }
    return (name ++ '=' :: value) :: (← assignAll go isLocal exported assignments)

/-- Runs a command that was found. -/
def runFound (go : Go) (context : Context) (found : Found) : Act Unit := do
  match found.runner, found.args with
  | .nothing, _ => setStatus (← get).substituted
  | .function body, args => callFunction go context body args.tail
  | .builtin name, args => runBuiltin found.special name (builtinNamed go context name args.tail)
  | .program, args =>
    let search := found.search.getD (← get).search
    match ← runProgram go search (args.headD []) args.tail with
    | some status => waited context.last status
    | none => return

/-- Gives back what descriptors led to, unless the shell itself is being left. -/
def afterRedirection {α : Type} (before : Process) (descriptors : List Nat) : Except Jump α → Act Unit
  | .error .leave => return
  | .error .failed => return
  | .error (.killed _) => return
  | _ => modify fun sh => { sh with toProcess := giveBack sh.toProcess before descriptors }

/-- Runs a simple command. -/
def runSimple (go : Go) (context : Context) (line : Nat) (assignments : List (Text × Word)) (words : List Word)
    (redirections : List Redirection) : Act Unit := do
  modify fun sh => { sh with line, substituted := 0 }
  let found ← match ← ({ words } : Words).next (substitute go) with
    | some (name, rest) => findRunner (substitute go) false none (words.length + 1) name rest
    | none => pure { runner := .nothing }
  let targets ← redirections.mapM (targetOf (substitute go))
  let before := (← get).toProcess
  let errors := before.streamOf? 2
  if ← tryRedirect (substitute go) targets then
    let isExec := match found.runner with
      | .builtin name => name = "exec".toList
      | _ => false
    let isLocal := match found.runner with
      | .nothing => false
      | _ => !found.special
    let inner : Act Unit := do
      let assigned ← assignAll go isLocal (isLocal || (isExec && 1 < found.args.length)) assignments
      traceCommand go errors (assigned ++ found.args)
      runFound go context found
    let result ← attempt (if isLocal then withLocals inner else inner)
    if !isExec then afterRedirection before (targets.map (·.1)) result
    release result
  else
    modify fun sh => { sh with toProcess := giveBack sh.toProcess before (targets.map (·.1)), status := 2 }
    if found.special then throw .failed

end DocViewer.Script
