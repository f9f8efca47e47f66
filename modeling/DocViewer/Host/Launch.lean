import DocViewer.Host.Programs

/-!
# Finding and starting programs

A program is a file: one of the programs of the host, which stand in their directories, or a file whose first line names
its interpreter (`resolve`). A name without a slash is looked for along the search path (`searched`).
-/

namespace DocViewer.Host

abbrev Environment := List (Text × Text)

/-! ## The directories of the host -/

/-- The directories of the programs, the last name first. -/
def programDirectories : List Place := [["bin".toList], ["bin".toList, "usr".toList]]

def shellNames : List Text := ["sh".toList, "dash".toList]

def programNames : List Text := shellNames ++ "env".toList :: programs.map (·.1)

/-- What a disk holds of the host itself. -/
def furniture : List (Place × Entry) :=
  let directories := [["usr".toList], ["dev".toList], ["tmp".toList], ["etc".toList]] ++ programDirectories
  directories.map (·, .directory) ++
    programDirectories.flatMap fun place => programNames.map fun name => (name :: place, .file [] true)

/-- The disk with what the host has. -/
def furnished (d : Disk) : Disk :=
  { d with entries := d.entries ++ furniture.filter fun (place, _) => (d.entries.lookup place).isNone }

/-- The disk without what the host has. -/
def cleared (before d : Disk) : Disk :=
  let added := furniture.filter fun (place, _) => (before.entries.lookup place).isNone
  { d with entries := d.entries.filter fun (place, _) => !added.any (·.1 = place) }

/-! ## Programs -/

/-- What is at a path that can be started. -/
inductive Executable
  | program (p : Program)
  | shell
  /-- Starts what its arguments name. -/
  | env

/-- A program with the name and the arguments that it is started with. -/
structure Ready where
  executable : Executable
  name : Text
  args : List Text

/-- The program of the host at a place. -/
def programAt? : Place → Option Executable
  | name :: place =>
    if !programDirectories.contains place then none
    else if shellNames.contains name then some .shell
    else if name = "env".toList then some .env
    else (programs.lookup name).map .program
  | [] => none

/-- The longest text that is passed to a program, and the room for all of them, in bytes. -/
def argumentLimit : Nat := 131072
def argumentRoom : Nat := 2097152

/-- Whether arguments and an environment fit. -/
def fits (environment : Environment) (args : List Text) : Bool :=
  let lengths := args.map (·.length + 1) ++ environment.map fun (name, value) => name.length + value.length + 2
  lengths.all (· ≤ argumentLimit) && lengths.foldl (fun n length => n + length + 8) 0 ≤ argumentRoom

/-- How much of a file is looked at for its interpreter. -/
def headLength : Nat := 256

/-- The interpreter that the first line of a file names, with its argument. A line that is too long is cut, if that
does not cut the name. The name ends at a null character, and is empty if one comes first or the file ends there. -/
def interpreter? (data : Bytes) : Option (Text × List Text) :=
  let isBlank (c : Char) : Bool := c = ' ' || c = '\t'
  let head := wide (data.take headLength)
  let named (line : Text) : Text × List Text :=
    let (name, rest) := line.span fun c => !isBlank c && c ≠ '\x00'
    let argument := (rest.dropWhile isBlank).takeWhile (· ≠ '\x00')
    (name, if argument.isEmpty then [] else [argument])
  match head with
  | '#' :: '!' :: t =>
    let (line, rest) := t.span (· ≠ '\n')
    if !rest.isEmpty then
      let line := ((line.reverse.dropWhile isBlank).reverse).dropWhile isBlank
      if line.isEmpty then none else some (named line)
    else
      let line := (line.take (headLength - 3)).dropWhile isBlank
      if head.length < headLength || line.any fun c => isBlank c || c = '\x00' then
        some (named (line.reverse.dropWhile isBlank).reverse)
      else none
  | _ => none

/-- What a path leads to when it is started, with its arguments; `depth` bounds how many interpreters are interpreted
themselves. -/
def resolve (d : Disk) (environment : Environment) : (depth : Nat) → (path : Text) → (name : Text) → List Text →
    Except Fault Ready
  | 0, _, _, _ => .error .tooManyLevels
  | depth + 1, path, name, args => do
    let place ← d.locate path
    match programAt? place, d.entry? place with
    | some executable, _ =>
      if fits environment (name :: args) then .ok { executable, name, args } else .error .argumentsTooLong
    | none, some (.file data true) =>
      if d.busy.contains place then .error .busy
      else if !fits environment (name :: args) then .error .argumentsTooLong
      else
        match interpreter? data with
        | some ([], _) => .error .denied
        | some (interpreter, first) =>
          let args := first ++ argumentOf path :: args
          resolve d environment depth (pathOf interpreter) interpreter args
        | none => .error .notAProgram
    | none, none => .error .missing
    | none, some _ => .error .denied

/-- How many files can interpret one another. -/
def interpreterDepth : Nat := 6

def resolved (d : Disk) (environment : Environment) (path name : Text) (args : List Text) : Except Fault Ready :=
  resolve d environment interpreterDepth path name args

/-- A file that names no interpreter is a script. -/
def resolvedScript (d : Disk) (environment : Environment) (path name : Text) (args : List Text) : Except Fault Ready :=
  match resolved d environment path name args with
  | .error .notAProgram => .ok { executable := .shell, name := "/bin/sh".toList, args := argumentOf path :: args }
  | result => result

/-! ## Searching -/

/-- The paths at which a name is looked for. -/
def candidates (search name : Text) : List Text :=
  (search.splitOn ':').map fun directory => if directory.isEmpty then name else directory ++ '/' :: name

/-- The search path if none is set. -/
def defaultSearch : Text := "/bin:/usr/bin".toList

/-- Tries one path after the other. A path that leads nowhere is passed over, and one that is denied is remembered. -/
def tryAll (load : Text → Except Fault Ready) (denied : Bool) (last : Fault) :
    List Text → Except Fault Ready
  | [] => .error (if denied then .denied else last)
  | path :: paths =>
    match load path with
    | .ok found => .ok found
    | .error .denied => tryAll load true .denied paths
    | .error .missing => tryAll load denied .missing paths
    | .error .notADirectory => tryAll load denied .notADirectory paths
    | .error fault => .error fault

/-- The program that a name or a path means. -/
def searched (d : Disk) (environment : Environment) (scripts : Bool) (program : Text) (args : List Text) :
    Except Fault Ready :=
  let name := argumentOf program
  let resolve (path : Text) :=
    if scripts then resolvedScript d environment path name args else resolved d environment path name args
  if program.contains '/' then resolve program
  else if program.isEmpty then .error .missing
  else if Disk.nameLimit < (encode program).length then .error .nameTooLong
  else
    let search := (environment.lookup "PATH".toList).getD defaultSearch
    tryAll resolve false .missing (candidates (pathOf search) program)

/-! ## Starting -/

/-- How a shell is started, in an environment and with arguments. -/
abbrev ShellStart := Environment → Program

/-- What the arguments of `env` ask for. -/
structure EnvRequest where
  environment : Environment
  command : List Text

/-- Reads the arguments of `env`. An error is what is wrong with them. -/
def envRequest (environment : Environment) : (fuel : Nat) → List Text → Except Text EnvRequest
  | 0, args => .ok { environment, command := args }
  | fuel + 1, args =>
    match args with
    | ['-'] :: rest => envRequest [] fuel rest
    | ['-', '-'] :: rest => .ok (assigned environment rest)
    | ['-', 'u'] :: name :: rest => envRequest (environment.filter (·.1 ≠ name)) fuel rest
    | ['-', 'S'] :: words :: rest => envRequest environment fuel (splitWords words ++ rest)
    | ('-' :: 'S' :: words) :: rest => envRequest environment fuel (splitWords words ++ rest)
    | ('-' :: 'i' :: letters) :: rest =>
      envRequest [] fuel (if letters.isEmpty then rest else ('-' :: letters) :: rest)
    | ('-' :: '-' :: long) :: rest =>
      match String.ofList long with
      | "ignore-environment" => envRequest [] fuel rest
      | _ =>
        match dropPrefix? "unset=".toList long with
        | some name => envRequest (environment.filter (·.1 ≠ name)) fuel rest
        | none => .error ("unrecognized option '--".toList ++ long ++ "'".toList)
    | ('-' :: 'u' :: name) :: rest =>
      if name.isEmpty then .error "option requires an argument -- 'u'".toList
      else envRequest (environment.filter (·.1 ≠ name)) fuel rest
    | ('-' :: letter :: _) :: _ => .error ("invalid option -- '".toList ++ [letter, '\''])
    | rest => .ok (assigned environment rest)
where
  splitWords (t : Text) : List Text := (t.splitOn ' ').filter (!·.isEmpty)
  assigned (environment : Environment) : List Text → EnvRequest
    | [] => { environment, command := [] }
    | arg :: rest =>
      let (name, value) := arg.span (· ≠ '=')
      match value with
      | _ :: value => assigned ((environment.filter (·.1 ≠ name)) ++ [(name, value)]) rest
      | [] => { environment, command := arg :: rest }

/-- The status of a program that does not start. -/
def startFault : Fault → Nat
  | .missing => 127
  | _ => 126

/-- Starts a program. -/
def start (shell : ShellStart) : (fuel : Nat) → Environment → Ready → Process → ExitStatus × Process
  | 0, _, _, p => (.code 126, p)
  | fuel + 1, environment, ready, p =>
    match ready.executable with
    | .program program => program ready.name ready.args p
    | .shell => shell environment ready.name ready.args p
    | .env =>
      match envRequest environment (ready.args.flatten.length + ready.args.length + 1) ready.args with
      | .error message => misused ready.name message 125 p
      | .ok { environment, command := [] } =>
        let lines := environment.flatMap fun (name, value) => name ++ '=' :: value ++ ['\n']
        finish ready.name (narrow lines) false p
      | .ok { environment, command := program :: args } =>
        match searched p.system.disk environment true (pathOf program) args with
        | .ok ready => start shell fuel environment ready p
        | .error fault =>
          let message := quotedName program ++ ": ".toList ++ faultText fault
          let hint := fault = .missing && program.any fun c => c = ' ' || ('\t' ≤ c && c ≤ '\r')
          let p := p.warn (messageOf ready.name message)
          let p := if hint then p.warn (messageOf ready.name "use -[v]S to pass options in shebang lines".toList) else p
          (.code (startFault fault), p)

/-- How deep programs can start one another without being a shell. -/
def startDepth : Nat := 100

end DocViewer.Host
