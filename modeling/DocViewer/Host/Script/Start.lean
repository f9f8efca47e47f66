import DocViewer.Host.Script.Builtin.Places
import DocViewer.Host.Script.Builtin.Settings
import DocViewer.Host.Script.Child

/-!
# Starting a shell

A shell runs a text among its arguments, a file, or its input. It takes its variables from the environment.
-/

namespace DocViewer.Script

open Host

/-- The search path of a shell that is given none. -/
def fallbackSearch : Text := "/usr/local/sbin:/usr/local/bin:/usr/sbin:/usr/bin:/sbin:/bin".toList

/-- The variables that a shell starts with. -/
def initialVariables (environment : Environment) (home : Place) : Variables :=
  let given : Variables := environment.foldr
    (fun (name, value) vs => if isName name then vs.set name { value := some value, exported := true } else vs) []
  let plain (vs : Variables) (name value : Text) : Variables := vs.set name { value := some value }
  let vs := if (given.lookup "PATH".toList).isSome then given else plain given "PATH".toList fallbackSearch
  let fixed : List (String × Text) :=
    [("IFS", [' ', '\t', '\n']), ("OPTIND", ['1']), ("PPID", ['1']), ("PS1", ['#', ' ']), ("PS2", ['>', ' ']),
      ("PS4", ['+', ' '])]
  let vs := fixed.foldl (fun vs (name, value) => plain vs name.toList value) vs
  vs.set "PWD".toList { value := some (placeText home), exported := true }

/-- The arguments of a shell behind its options, and whether the first one is a script. -/
structure Invocation where
  isScript : Bool := false
  args : List Text := []

/-- The letters of options at the start of a shell. A list of the options shows all of them as on, because nothing is
settled yet. -/
def startLetters (on : Bool) (isScript : Bool) : (letters : Text) → List Text → Act Invocation
  | [], args => return { isScript, args }
  | 'c' :: letters, args => startLetters on true letters args
  | 'l' :: letters, args => startLetters on isScript letters args
  | 'o' :: letters, args => do
    match args with
    | name :: args => do
      setNamed name on
      startLetters on isScript letters args
    | [] => do
      let _ ← print (optionListing { ← get with flags := shellOptions.map (·.1) } (!on))
      startLetters on isScript letters args
  | letter :: letters, args => do
    setLetter letter on
    startLetters on isScript letters args

def startOptions (isScript : Bool) : (fuel : Nat) → List Text → Act Invocation
  | 0, args => return { isScript, args }
  | _ + 1, [] => return { isScript, args := [] }
  | fuel + 1, arg :: args => do
    match arg with
    | ['-'] => return { isScript, args }
    | ['-', '-'] => return { isScript, args }
    | '-' :: letters => do
      let i ← startLetters true isScript letters args
      startOptions i.isScript fuel i.args
    | '+' :: letters => do
      let i ← startLetters false isScript letters args
      startOptions i.isScript fuel i.args
    | _ => return { isScript, args := arg :: args }

/-- The text of a file or of the input, as a script. -/
def scriptText (b : Bytes) : Text := (wide b).filter (· ≠ '\x00')

/-- The text of the file at a path. A directory has none. -/
def readScript (name : Text) : Act Text := do
  match (← get).toProcess.openFile .read (pathOf name) with
  | .error fault =>
    let reason := if fault = .missing || fault = .notADirectory then "No such file".toList else faultText fault
    fail ("cannot open ".toList ++ name ++ ": ".toList ++ reason)
  | .ok (id, p) =>
    match (p.attach scriptDescriptor id).readAll scriptDescriptor with
    | .ok (b, p) =>
      modifyProcess fun _ => p.detach scriptDescriptor
      return scriptText b
    | .error _ => return []
where
  /-- Free for scripts. -/
  scriptDescriptor : Nat := 1001

/-- Runs what the arguments of a shell ask for. -/
def runInvocation (go : Go) (args : List Text) : Act Unit := do
  let i ← startOptions false (args.length + 1) args
  let named (args : List Text) : Act Unit := modify fun sh =>
    match args with
    | name :: arguments => { sh with name, arguments }
    | [] => { sh with arguments := [] }
  let start : Act Unit := modify fun sh => { sh with line := 1 }
  let readsInput := (← get).flags.contains 's'
  match i.isScript, i.args with
  | true, [] => fail "-c requires an argument".toList
  | true, script :: args =>
    named args
    start
    let _ ← runText go false script
  | false, args =>
    if args.isEmpty || readsInput then
      setOption 's' true
      modify fun sh => { sh with arguments := args }
      start
      match (← get).toProcess.readAll 0 with
      | .ok (b, p) =>
        modifyProcess fun _ => p
        let _ ← runText go false (scriptText b) true
      | .error _ => return
    else
      let text ← readScript (args.headD [])
      named args
      start
      let _ ← runText go false text true

def startShell (go : Go) : ShellStart := fun environment name args p =>
  let number := p.system.nextProcess
  let system := { p.system with nextProcess := number + 1, running := number :: p.system.running }
  let sh : Shell :=
    { p with
      system
      name
      process := number
      root := number
      line := 0
      vars := initialVariables environment p.system.disk.home }
  let (result, sh) := runInvocation go args sh
  let (status, sh) := conclude go result sh
  let system := { sh.system with running := sh.system.running.filter (· ≠ number) }
  (status, { p with system })

end DocViewer.Script
