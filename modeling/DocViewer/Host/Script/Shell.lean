import DocViewer.Host.Script.Source
import DocViewer.Host.System

/-!
# A running shell

The state of a shell, which is a process, and the actions on it (`Act`). An action can leave what is being run
(`Jump`): the shell ends, a function or some loops end, or a signal ends the process.
-/

namespace DocViewer.Script

open Host

structure Variable where
  value : Option Text := none
  exported : Bool := false
  fixed : Bool := false

abbrev Variables := List (Text × Variable)

namespace Variables

def set (vs : Variables) (name : Text) (v : Variable) : Variables := (name, v) :: vs.filter (·.1 ≠ name)

def unset (vs : Variables) (name : Text) : Variables := vs.filter (·.1 ≠ name)

def value? (vs : Variables) (name : Text) : Option Text := (vs.lookup name).bind (·.value)

/-- The variables that are passed to programs. -/
def environment (vs : Variables) : List (Text × Text) :=
  vs.filterMap fun (name, v) => if v.exported then v.value.map (name, ·) else none

end Variables

/-- What a function call gives back its old state at its end. -/
inductive Saved
  | variable (name : Text) (old : Option Variable)
  | flags (old : Text)

structure Shell extends Process where
  name : Text
  arguments : List Text := []
  /-- The number of the process, and of the one in which the script started. -/
  process : Nat
  root : Nat
  vars : Variables
  functions : List (Text × Statement) := []
  aliases : List (Text × Text) := []
  documents : List (Nat × Word) := []
  nextDocument : Nat := 0
  status : Nat := 0
  /-- The letters of the options that are on. -/
  flags : Text := []
  /-- The line of the statement at hand. -/
  line : Nat := 1
  /-- The command of the shell at hand, for messages. -/
  command : Option Text := none
  /-- How many loops are running in the function at hand, and how many functions. -/
  loops : Nat := 0
  calls : Nat := 0
  /-- For each function that is running, what it has changed for itself only. -/
  locals : List (List Saved) := []
  /-- What is run for signals, and for the end of the shell as signal 0. An empty text stands for nothing. -/
  traps : List (Nat × Text) := []
  /-- Signals that came and have not been answered. -/
  pending : List Nat := []
  /-- The status of the last script inside a word of the statement at hand. -/
  substituted : Nat := 0
  /-- The jobs in the background, by their numbers, with how they ended. -/
  jobs : List (Nat × ExitStatus) := []
  background : Option Nat := none
  /-- The number of the argument that `getopts` reads next, and how far it has read the one before it. -/
  optionIndex : Nat := 1
  lettersRead : Option Nat := none
  /-- What files that are made are not allowed. -/
  mask : Nat := 18
  /-- The status that an `exit` without a number gives while a trap runs. -/
  leavingStatus : Option Nat := none

inductive Jump
  /-- The shell ends with its status. -/
  | leave
  /-- Something is wrong, and the shell ends if nothing stops this. -/
  | failed
  /-- The function or file ends. -/
  | back
  /-- So many loops end. -/
  | stop (loops : Nat)
  /-- So many loops but one end, and the last one goes on. -/
  | again (loops : Nat)
  | killed (signal : Nat)

abbrev Act := ExceptT Jump (StateM Shell)

/-- How a statement is run: whether its status is tested, and whether nothing follows in its process. -/
structure Context where
  tested : Bool := false
  last : Bool := false

/-- How statements are run. -/
abbrev Go := Context → Statement → Act Unit

section

variable {α : Type}

/-! ## Messages -/

/-- A message of the shell. -/
def Shell.messageOf (sh : Shell) (message : Text) : Text :=
  let command := match sh.command with
    | some command => command ++ ": ".toList
    | none => []
  sh.name ++ ": ".toList ++ decimal sh.line ++ ": ".toList ++ command ++ message ++ ['\n']

/-- Ends if the process has ended on the way. -/
def survive : Act Unit := do
  match (← get).ended with
  | some (.signal n) => throw (.killed n)
  | some (.code n) => do
    modify fun sh => { sh with status := n }
    throw .leave
  | none => return

/-- Changes the process. -/
def modifyProcess (f : Process → Process) : Act Unit := do
  modify fun sh => { sh with toProcess := f sh.toProcess }
  survive

def writeText (descriptor : Nat) (t : Text) : Act Bool := do
  match (← get).toProcess.write descriptor (narrow t) with
  | .ok p =>
    modifyProcess fun _ => p
    return true
  | .error _ => return false

/-- Writes to the error output, if it can be written. -/
def tell (t : Text) : Act Unit := do
  let _ ← writeText 2 t

def warn (message : Text) : Act Unit := do tell ((← get).messageOf message)

def setStatus (status : Nat) : Act Unit := modify fun sh => { sh with status }

/-- Fails with a message. -/
def fail (message : Text) (status : Nat := 2) : Act α := do
  warn message
  setStatus status
  throw .failed

/-- Writes output of a command of the shell. -/
def print (t : Text) : Act Nat := do
  if t.isEmpty then return 0
  if ← writeText 1 t then return 0
  match (← get).command with
  | some command => warn (command ++ ": I/O error".toList)
  | none => pure ()
  return 1

/-- Runs an action, and gives back what it left with. -/
def attempt (a : Act α) : Act (Except Jump α) := fun sh =>
  match a sh with
  | (result, sh) => (.ok result, sh)

/-- Leaves with what was caught, or goes on with the result. -/
def release : Except Jump α → Act α
  | .ok a => return a
  | .error jump => throw jump

/-! ## Numbers in arguments -/

/-- The number that the digits at the front are, no larger than fits, and what follows. -/
def digitsValue (base limit : Nat) (accepts : Char → Bool) (digits : Text) : Nat × Text :=
  let (digits, rest) := digits.span accepts
  (digits.foldl (fun n c => min limit (n * base + (if c.isDigit then c.toNat - '0'.toNat
    else c.toLower.toNat - 'a'.toNat + 10))) 0, rest)

def isSpace (c : Char) : Bool := c = ' ' || ('\t' ≤ c && c ≤ '\r')

/-- The largest number of 64 bits with a sign. -/
def largest : Nat := 9223372036854775807

/-- The decimal number with a sign or without that a text is, up to blanks around it. -/
def decimalNumber? (t : Text) : Option Int :=
  let t := t.dropWhile isSpace
  let (negative, t) := match t with
    | '-' :: t => (true, t)
    | '+' :: t => (false, t)
    | t => (false, t)
  let (n, rest) := digitsValue 10 (largest + 2) Char.isDigit t
  if !(t.head?).any Char.isDigit || !rest.all isSpace then none
  else if negative then if n ≤ largest + 1 then some (-n) else none
  else if n ≤ largest then some n else none

def badNumber (t : Text) : Act α := fail ("Illegal number: ".toList ++ t)

/-- The number that an argument is. -/
def numberOf (t : Text) : Act Nat :=
  match decimalNumber? t with
  | some n => if 0 ≤ n && n ≤ 2147483647 then return n.toNat else badNumber t
  | none => badNumber t

/-! ## Variables -/

def valueNamed? (name : Text) : Act (Option Text) := return (← get).vars.value? name

/-- Changes a variable that is not fixed. -/
def changeVariable (name : Text) (change : Variable → Variable) : Act Unit := do
  let sh ← get
  let v := (sh.vars.lookup name).getD {}
  if v.fixed then fail (name ++ ": is read only".toList)
  else
    let v := change v
    set { sh with
      vars := sh.vars.set name { v with exported := v.exported || sh.flags.contains 'a' } }
    if name = "OPTIND".toList then
      let index := ((v.value.bind decimalNumber?).getD 1).toNat
      modify fun sh => { sh with optionIndex := max index 1, lettersRead := none }

def assign (name value : Text) : Act Unit := changeVariable name fun v => { v with value := some value }

/-- Assigns to a name that has to be the name of a variable. -/
def assignNamed (name value : Text) : Act Unit := do
  if isName name then assign name value else fail (name ++ ": bad variable name".toList)

def unsetVariable (name : Text) : Act Unit := do
  if !isName name then fail (name ++ ": bad variable name".toList)
  if ((← get).vars.lookup name).any (·.fixed) then fail (name ++ ": is read only".toList)
  modify fun sh => { sh with vars := sh.vars.unset name }

/-- Remembers something that the function at hand, or the command at hand, changes for itself only. -/
def remember (saved : Saved) : Act Unit := modify fun sh =>
  match sh.locals with
  | frame :: frames => { sh with locals := (saved :: frame) :: frames }
  | [] => sh

/-- Makes a variable local; it keeps its value. -/
def makeLocal (name : Text) : Act Unit := do
  let old := (← get).vars.lookup name
  remember (.variable name old)
  if old.isNone then modify fun sh => { sh with vars := sh.vars.set name {} }

def Shell.restore (sh : Shell) : Saved → Shell
  | .variable name (some v) => { sh with vars := sh.vars.set name v }
  | .variable name none => { sh with vars := sh.vars.unset name }
  | .flags flags => { sh with flags }

/-- Gives back what the function or the command at hand changed for itself only. -/
def leaveLocals : Act Unit := modify fun sh =>
  match sh.locals with
  | frame :: frames => { frame.foldl Shell.restore sh with locals := frames }
  | [] => sh

/-- Runs an action with a place for what is local to it. It stays when the shell itself is being left. -/
def withLocals (a : Act α) : Act α := do
  modify fun sh => { sh with locals := [] :: sh.locals }
  let result ← attempt a
  match result with
  | .error .leave => pure ()
  | .error .failed => pure ()
  | .error (.killed _) => pure ()
  | _ => leaveLocals
  release result

/-! ## Parameters -/

/-- The characters that separate the fields of a line. -/
def Shell.separators (sh : Shell) : Text := (sh.vars.value? "IFS".toList).getD [' ', '\t', '\n']

/-- The arguments as one text. -/
def Shell.joined (sh : Shell) : Text := (sh.separators.take 1).intercalate sh.arguments

/-- The value of a parameter, if it has one. -/
def Shell.parameter? (sh : Shell) (name : Text) : Option Text :=
  match name with
  | ['@'] => some sh.joined
  | ['*'] => some sh.joined
  | ['#'] => some (decimal sh.arguments.length)
  | ['?'] => some (decimal sh.status)
  | ['$'] => some (decimal sh.root)
  | ['!'] => sh.background.map decimal
  | ['-'] => some sh.flags
  | c :: _ =>
    if c.isDigit then
      match (String.ofList name).toNat? with
      | some 0 => some sh.name
      | some (n + 1) => sh.arguments[n]?
      | none => none
    else sh.vars.value? name
  | [] => none

end

end DocViewer.Script
