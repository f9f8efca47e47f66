import DocViewer.CommandLine.Argument

/-!
# Reading arguments

Arguments are read from left to right; the first request for help and the first mistake end the reading. The options
may stand in front of the command and after it (`Given`). An option that is given in both places has the value given
after the command.
-/

namespace DocViewer.CommandLine

/-- An option whose value is still to come, or was read and is still to be checked. -/
inductive Pending
  | none
  | expects (s : Setting)
  | holds (s : Setting) (value : Text)

/-- What was given in front of the command, or after it. -/
structure Given where
  settings : List (Setting × Text) := []
  verbose : Nat := 0
  quiet : Bool := false
  noFormatter : Bool := false
  words : List Text := []
  pending : Pending := .none

namespace Given

/-- Gives a setting its value, which can be done once. -/
def assign (g : Given) (s : Setting) (value : Text) : Except Stop Given :=
  if (g.settings.lookup s).isSome || !s.accepts value then .error .usage
  else .ok { g with settings := g.settings ++ [(s, value)] }

/-- Checks the option that is pending. -/
def settle (g : Given) : Except Stop Given :=
  match g.pending with
  | .none => .ok g
  | .expects _ => .error .usage
  | .holds s value => { g with pending := .none }.assign s value

def switch (g : Given) : Switch → Except Stop Given
  | .verbose => .ok { g with verbose := g.verbose + 1 }
  | .quiet => if g.quiet then .error .usage else .ok { g with quiet := true }
  | .noFormatter => if g.noFormatter then .error .usage else .ok { g with noFormatter := true }
  | .help => .error .help
  | .version => .error .version

/-- An option by its long name, perhaps with its value. -/
def long (verb : Option Verb) (g : Given) (name : Text) (value : Option Text) : Except Stop Given :=
  match Item.ofLong? verb name, value with
  | none, _ => .error .usage
  | some (.switch s), none => do (← g.settle).switch s
  | some (.switch _), some _ => .error .usage
  | some (.setting s), some value => do (← g.settle).assign s value
  | some (.setting s), none => do return { ← g.settle with pending := .expects s }

/-- Options by their letters. All that follows the letter of a setting is its value. -/
def short (verb : Option Verb) (g : Given) : Text → Except Stop Given
  | [] => .ok g
  | letter :: rest =>
    match Item.ofLetter? verb letter with
    | none => .error .usage
    | some (.switch s) => do short verb (← (← g.settle).switch s) rest
    | some (.setting s) => do
      let g ← g.settle
      match rest with
      | [] => return { g with pending := .expects s }
      | '=' :: value => g.assign s value
      | value => g.assign s value

def word (verb : Option Verb) (g : Given) (t : Text) : Except Stop Given := do
  let g ← g.settle
  match verb with
  | none => .error .usage
  | some v => if v.takesWord g.words.length then .ok { g with words := g.words ++ [t] } else .error .usage

/-- Whether an option expects its value. -/
def expecting (g : Given) : Option Setting := match g.pending with
  | .expects s => some s
  | _ => none

/-- The words after the mark. -/
def wordsOnly (verb : Option Verb) (g : Given) (args : List Text) : Except Stop Given := do
  args.foldlM (word verb) (← g.settle)

/-- The help on a command. -/
def helpOn : List Text → Stop
  | [] => .help
  | [name] => if (Verb.ofName? name).isSome || name = "help".toList then .help else .usage
  | _ => .usage

/-- Reads arguments, up to the command if there is none yet. -/
def scan (verb : Option Verb) (g : Given) : List Text → Except Stop (Given × Option (Verb × List Text))
  | [] => .ok (g, none)
  | arg :: rest =>
    let command : Option Verb := if verb.isSome || g.expecting.isSome then none else Verb.ofName? arg
    match command with
    | some v => .ok (g, some (v, rest))
    | none =>
      if verb.isNone && g.expecting.isNone && arg = "help".toList then .error (helpOn rest)
      else
        match Form.of arg with
        | .mark => do return (← g.wordsOnly verb rest, none)
        | .long name value => do scan verb (← g.long verb name value) rest
        | .short letters => do scan verb (← g.short verb letters) rest
        | .word =>
          match g.expecting with
          | some s => scan verb { g with pending := .holds s arg } rest
          | none => do scan verb (← g.word verb arg) rest

/-- Whether the value that the environment has for a setting can be used, if it is needed. -/
def environmentOk (environment : List (Text × Text)) (g : Given) (s : Setting) : Bool :=
  match s.environmentName? with
  | none => true
  | some name =>
    match g.settings.lookup s, environment.lookup name.toList with
    | none, some value => s.accepts value
    | _, _ => true

/-- Checks what was given when there are no more arguments. -/
def close (environment : List (Text × Text)) (g : Given) : Except Stop Given := do
  let g ← g.settle
  if g.quiet && g.verbose ≠ 0 then .error .usage
  else if !([Setting.stlRoot, .formatter].all (g.environmentOk environment ·)) then .error .usage
  else .ok g

/-- All that was given, where what comes after the command counts first. -/
def merge (g above : Given) : Given :=
  { settings := g.settings ++ above.settings
    verbose := if g.verbose = 0 then above.verbose else g.verbose
    quiet := g.quiet || above.quiet
    noFormatter := g.noFormatter || above.noFormatter
    words := g.words }

/-- The value of a setting: from the arguments, or from the environment. -/
def value? (environment : List (Text × Text)) (g : Given) (s : Setting) : Option Text :=
  (g.settings.lookup s).or (s.environmentName?.bind fun name => environment.lookup name.toList)

/-- The invocation of a command. -/
def invocation (environment : List (Text × Text)) (g : Given) (verb : Verb) : Invocation :=
  let value (s : Setting) (default : Text) : Text := (g.value? environment s).getD default
  let defaults : Config := {}
  let formatter := value .formatter (defaults.formatter.getD [])
  let log := Log.Settings.ofVerbosity g.verbose g.quiet
  { task := match verb with
      | .search => .search g.words
      | .follow => .follow (g.words.headD []) (g.value? environment .page)
      | .terms => .terms
      | .shell => .shell
    config :=
      { stlRoot := value .stlRoot defaults.stlRoot
        formatter := if g.noFormatter then none else some formatter
        manProgram := value .man defaults.manProgram
        sections := value .sections defaults.sections }
    log :=
      { level := ((g.value? environment .logLevel).bind Setting.levelOf?).getD log.level
        format := ((g.value? environment .logFormat).bind fun t => Log.Format.ofName? (String.ofList t)).getD log.format
        ansi := false }
    output := g.value? environment .output }

end Given

/-- What the arguments ask for. -/
def Invocation.ofArguments (environment : List (Text × Text)) (args : List Text) : Except Stop Invocation := do
  let (above, command) ← Given.scan none {} args
  match command with
  | none => .error .usage
  | some (verb, rest) =>
    let (g, _) ← Given.scan (some verb) {} rest
    let g ← g.close environment
    if verb.needsWord && g.words.isEmpty then .error .usage
    else
      let above ← above.close environment
      return (g.merge above).invocation environment verb

end DocViewer.CommandLine
