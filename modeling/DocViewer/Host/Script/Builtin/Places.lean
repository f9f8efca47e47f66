import DocViewer.Host.Launch
import DocViewer.Host.Script.Builtin.Basic

/-!
# Directories and commands

The commands that move from one directory to another, and those that tell what a command is.
-/

namespace DocViewer.Script

open Host

/-! ## Directories -/

/-- The path of a place from the root on. -/
def placeText : Place → Text
  | [] => ['/']
  | place => place.reverse.flatMap fun name => '/' :: argumentOf name

/-- The directory that a path leads to. -/
def directoryAt? (d : Disk) (path : Text) : Option Place :=
  match d.locate (pathOf path) with
  | .ok place => if d.entry? place = some .directory then some place else none
  | .error _ => none

/-- Makes a directory the working directory. -/
def enter (place : Place) : Act Unit := modify fun sh =>
  let old := placeText sh.system.disk.home
  let shown (value : Text) : Variable := { value := some value, exported := true }
  { sh with
    system.disk.home := place
    vars := (sh.vars.set "OLDPWD".toList (shown old)).set "PWD".toList (shown (placeText place)) }

/-- Whether a path is looked for in the working directory only. -/
def isDirect (path : Text) : Bool :=
  match path with
  | '/' :: _ => true
  | ['.'] => true
  | '.' :: '/' :: _ => true
  | ['.', '.'] => true
  | '.' :: '.' :: '/' :: _ => true
  | _ => false

def changeDirectory : Builtin := fun args => do
  let (_, args) ← optionsOf [('L', false), ('P', false)] args
  let sh ← get
  let (target, shows) := match args with
    | ['-'] :: _ => ((sh.vars.value? "OLDPWD".toList).getD [], true)
    | target :: _ => (target, false)
    | [] => ((sh.vars.value? "HOME".toList).getD [], false)
  let path : Text := if target.isEmpty then ['.'] else target
  let roots := if isDirect path then [[]] else ((sh.vars.value? "CDPATH".toList).getD []).splitOn ':'
  let found := roots.findSome? fun root =>
    (directoryAt? sh.system.disk (if root.isEmpty then path else root ++ '/' :: path)).map (root, ·)
  match found with
  | some (root, place) =>
    enter place
    if shows || !root.isEmpty then print (placeText place ++ ['\n']) else return 0
  | none => fail ("can't cd to ".toList ++ path)

def showDirectory : Builtin := fun args => do
  let _ ← optionsOf [('L', false), ('P', false)] args
  print (placeText (← get).system.disk.home ++ ['\n'])

/-! ## What commands are -/

/-- What a name of a command means. -/
inductive Meaning
  | reserved
  | other (text : Text)
  | function
  | builtin (special : Bool)
  | file (path : Text)
  | unknown

/-- The path of the file that a name means, looked for along the search path if it has no slash. -/
def fileOf? (d : Disk) (search name : Text) : Option Text :=
  if name.contains '/' then if (d.find (pathOf name)).toBool then some name else none
  else (candidates search name).find? fun path => d.isFile (pathOf path)

def Shell.search (sh : Shell) : Text := (sh.vars.value? "PATH".toList).getD []

/-- What a name means, given the commands of the shell. -/
def Shell.meaning (sh : Shell) (builtins : List Text) (name : Text) : Meaning :=
  if reservedWords.any (·.toList = name) then .reserved
  else
    match sh.aliases.lookup name with
    | some text => .other text
    | none =>
      if (sh.functions.lookup name).isSome then .function
      else if specialCommands.any (·.toList = name) then .builtin true
      else if builtins.contains name then .builtin false
      else
        match fileOf? sh.system.disk sh.search name with
        | some path => .file path
        | none => .unknown

/-- Tells what a name means. -/
def describe (builtins : List Text) (name : Text) : Act Nat := do
  let line (text : String) : Text := name ++ text.toList ++ ['\n']
  match (← get).meaning builtins name with
  | .reserved => print (line " is a shell keyword")
  | .other text => print (name ++ " is an alias for ".toList ++ text ++ ['\n'])
  | .function => print (line " is a shell function")
  | .builtin true => print (line " is a special shell builtin")
  | .builtin false => print (line " is a shell builtin")
  | .file path => print (name ++ " is ".toList ++ path ++ ['\n'])
  | .unknown => do
    let _ ← print (line ": not found")
    return 127

/-- Shows how a name is run. -/
def locateCommand (builtins : List Text) (name : Text) : Act Nat := do
  match (← get).meaning builtins name with
  | .other text => print ("alias ".toList ++ name ++ '=' :: quoted text ++ ['\n'])
  | .file path => print (path ++ ['\n'])
  | .unknown => return 127
  | _ => print (name ++ ['\n'])

def describeAll (builtins : List Text) : Builtin := fun args => do
  let mut status := 0
  for name in ← operandsOf args do status := status ||| (← describe builtins name)
  return status

def hash (builtins : List Text) : Builtin := fun args => do
  let (_, names) ← optionsOf [('r', false)] args
  let mut status := 0
  for name in names do
    match (← get).meaning builtins name with
    | .unknown =>
      warn (name ++ ": not found".toList)
      status := 1
    | _ => pure ()
  return status

end DocViewer.Script
