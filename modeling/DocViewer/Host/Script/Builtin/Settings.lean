import DocViewer.Host.Script.Builtin.Basic

/-!
# Variables, arguments and options

The commands that change the state of the shell: its variables, its arguments, its options and its other names for
commands.
-/

namespace DocViewer.Script

open Host

/-! ## Variables -/

/-- The name and the value in an argument `name=value`. -/
def splitAssignment (t : Text) : Text × Option Text :=
  let (name, rest) := t.span (· ≠ '=')
  match rest with
  | _ :: value => (name, some value)
  | [] => (name, none)

/-- The lines that list variables. -/
def listing (sh : Shell) (front : Text) (listed : Variable → Bool) : Text :=
  let chosen := sh.vars.filter fun (_, v) => listed v
  (sorted (chosen.map (·.1))).flatMap fun name =>
    let value := match sh.vars.value? name with
      | some value => '=' :: quoted value
      | none => []
    front ++ name ++ value ++ ['\n']

/-- `export` and `readonly`: lists variables, or marks them. -/
def mark (command : Text) (listed : Variable → Bool) (change : Variable → Variable) : Builtin := fun args => do
  let (options, args) ← optionsOf [('p', false)] args
  if !options.isEmpty || args.isEmpty then print (listing (← get) (command ++ [' ']) listed)
  else
    for arg in args do
      let (name, value) := splitAssignment arg
      if !isName name then fail (name ++ ": bad variable name".toList)
      let sh ← get
      match value, sh.vars.lookup name with
      | some value, _ => changeVariable name fun v => change { v with value := some value }
      | none, some v => set { sh with vars := sh.vars.set name (change v) }
      | none, none => set { sh with vars := sh.vars.set name (change {}) }
    return 0

def exportVariables : Builtin := mark "export".toList (·.exported) fun v => { v with exported := true }

def fixVariables : Builtin := mark "readonly".toList (·.fixed) fun v => { v with fixed := true }

def localVariables : Builtin := fun args => do
  if (← get).locals.isEmpty then fail "not in a function".toList
  for arg in args do
    if arg = ['-'] then remember (.flags (← get).flags)
    else
      let (name, value) := splitAssignment arg
      if !isName name then fail (name ++ ": bad variable name".toList)
      makeLocal name
      match value with
      | some value => assign name value
      | none => pure ()
  return 0

def unsetNames : Builtin := fun args => do
  let (options, names) ← optionsOf [('v', false), ('f', false)] args
  for name in names do
    if (options.getLast?).any (·.1 = 'f') then
      modify fun sh => { sh with functions := sh.functions.filter (·.1 ≠ name) }
    else unsetVariable name
  return 0

/-! ## Options -/

/-- The options with their letters. -/
def shellOptions : List (Char × String) :=
  [('e', "errexit"), ('f', "noglob"), ('I', "ignoreeof"), ('i', "interactive"), ('m', "monitor"), ('n', "noexec"),
    ('s', "stdin"), ('x', "xtrace"), ('v', "verbose"), ('V', "vi"), ('E', "emacs"), ('C', "noclobber"),
    ('a', "allexport"), ('b', "notify"), ('u', "nounset"), ('p', "privileged"), ('N', "nolog"), ('D', "debug")]

/-- Options without a letter of their own. -/
def isHiddenOption (letter : Char) : Bool := letter = 'N' || letter = 'D' || letter = 'p'

/-- Turns an option on or off; the letters are kept in an order of their own. -/
def setOption (letter : Char) (on : Bool) : Act Unit := modify fun sh =>
  let flags := if on then letter :: sh.flags else sh.flags.filter (· ≠ letter)
  { sh with flags := (shellOptions.map (·.1)).reverse.filter flags.contains }

def setLetter (letter : Char) (on : Bool) : Act Unit := do
  if (shellOptions.lookup letter).isSome && (letter = 'p' || !isHiddenOption letter) then setOption letter on
  else fail ("Illegal option -".toList ++ [letter])

def setNamed (name : Text) (on : Bool) : Act Unit := do
  match shellOptions.find? (·.2.toList = name) with
  | some (letter, _) => setOption letter on
  | none => fail ("Illegal option -o ".toList ++ name)

/-- The lines that list the options. -/
def optionListing (sh : Shell) (asCommands : Bool) : Text :=
  let line : Char × String → Text := fun (letter, name) =>
    let on := sh.flags.contains letter
    if asCommands then "set ".toList ++ (if on then '-' else '+') :: 'o' :: ' ' :: name.toList ++ ['\n']
    else
      name.toList ++ List.replicate (16 - name.length) ' ' ++ (if on then "on" else "off").toList ++ ['\n']
  (if asCommands then [] else "Current option settings\n".toList) ++ shellOptions.flatMap line

/-- The letters of options; what follows an `o` is the name of an option, or a list is printed. -/
def setLetters (on : Bool) : (letters : Text) → List Text → Act (List Text)
  | [], args => return args
  | 'o' :: letters, args => do
    match args with
    | name :: args => do
      setNamed name on
      setLetters on letters args
    | [] => do
      let _ ← print (optionListing (← get) (!on))
      setLetters on letters args
  | letter :: letters, args => do
    setLetter letter on
    setLetters on letters args

/-- Reads the options at the front, and gives the arguments behind them, if these replace the arguments of the shell. -/
def setOptions : (fuel : Nat) → List Text → Act (Option (List Text))
  | 0, _ => return none
  | _ + 1, [] => return none
  | fuel + 1, arg :: args => do
    match arg with
    | ['-'] => do
      setOption 'x' false
      setOption 'v' false
      return if args.isEmpty then none else some args
    | ['-', '-'] => return some args
    | '-' :: letters => setOptions fuel (← setLetters true letters args)
    | '+' :: letters => setOptions fuel (← setLetters false letters args)
    | _ => return some (arg :: args)

def setArguments : Builtin := fun args => do
  if args.isEmpty then print (listing (← get) [] (·.value.isSome))
  else
    match ← setOptions (args.length + 1) args with
    | some arguments => modify fun sh => { sh with arguments, optionIndex := 1, lettersRead := none }
    | none => pure ()
    return 0

def shiftArguments : Builtin := fun args => do
  let count ← match args with
    | n :: _ => numberOf n
    | [] => pure 1
  if (← get).arguments.length < count then fail "can't shift that many".toList
  modify fun sh => { sh with arguments := sh.arguments.drop count, optionIndex := 1, lettersRead := none }
  return 0

/-! ## Options of scripts -/

/-- What the next option in the arguments of a script is. -/
structure NextOption where
  letter : Char
  /-- Its value, if it has one. -/
  value : Option Text
  index : Nat
  lettersRead : Option Nat
  /-- A letter that is unknown, or that has no value though it needs one. -/
  complaint : Option Text := none
  done : Bool := false

/-- Whether an option is known, and whether it needs a value. -/
def knownOption (letter : Char) : (letters : Text) → Option Bool
  | [] => none
  | c :: ':' :: letters => if c = letter then some true else knownOption letter letters
  | c :: letters => if c = letter then some false else knownOption letter letters

def nextOption (letters : Text) (args : List Text) (index : Nat) (lettersRead : Option Nat) : NextOption :=
  let silent := letters.head? = some ':'
  let current : Text := match lettersRead with
    | some n => ((args[index - 2]?).getD []).drop n
    | none => []
  let found : Option (Char × Text × Nat) × Nat := match current with
    | c :: rest => (some (c, rest, index), index)
    | [] =>
      match args[index - 1]? with
      | some ['-', '-'] => (none, index + 1)
      | some ('-' :: c :: rest) => (some (c, rest, index + 1), index)
      | _ => (none, index)
  match found with
  | (none, index) => { letter := '?', value := none, index, lettersRead := none, done := true }
  | (some (c, rest, index), _) =>
    let place (index : Nat) : Option Nat := some (((args[index - 2]?).getD []).length - rest.length)
    match knownOption c letters with
    | none =>
      if silent then { letter := '?', value := some [c], index, lettersRead := place index }
      else
        { letter := '?', value := none, index, lettersRead := place index,
          complaint := some ("Illegal option -".toList ++ [c, '\n']) }
    | some false => { letter := c, value := some [], index, lettersRead := place index }
    | some true =>
      match rest, args[index - 1]? with
      | [], some value => { letter := c, value := some value, index := index + 1, lettersRead := none }
      | [], none =>
        if silent then { letter := ':', value := some [c], index, lettersRead := place index }
        else
          { letter := '?', value := none, index, lettersRead := place index,
            complaint := some ("No arg for -".toList ++ c :: " option\n".toList) }
      | value, _ => { letter := c, value := some value, index, lettersRead := none }

def getOption : Builtin := fun args => do
  match args with
  | letters :: name :: args =>
    let sh ← get
    let args := if args.isEmpty then sh.arguments else args
    let (index, lettersRead) :=
      if args.length + 1 < sh.optionIndex then (1, none) else (sh.optionIndex, sh.lettersRead)
    let next := nextOption letters args index lettersRead
    if !next.done then
      match next.value with
      | some value => assign "OPTARG".toList value
      | none => unsetVariable "OPTARG".toList
    tell (next.complaint.getD [])
    assign "OPTIND".toList (decimal next.index)
    assignNamed name [next.letter]
    modify fun sh => { sh with optionIndex := next.index, lettersRead := next.lettersRead }
    return if next.done then 1 else 0
  | _ => fail "Usage: getopts optstring var [arg...]".toList

/-! ## Other names -/

def aliasNames : Builtin := fun args => do
  let line (name value : Text) : Text := name ++ '=' :: quoted value ++ ['\n']
  if args.isEmpty then
    let sh ← get
    print ((sorted (sh.aliases.map (·.1))).flatMap fun name => line name ((sh.aliases.lookup name).getD []))
  else
    let mut status := 0
    for arg in args do
      let (name, rest) := (arg.take 1 ++ (arg.drop 1).takeWhile (· ≠ '='), (arg.drop 1).dropWhile (· ≠ '='))
      match rest with
      | _ :: value =>
        modify fun sh => { sh with aliases := (name, value) :: sh.aliases.filter (·.1 ≠ name) }
      | [] =>
        match (← get).aliases.lookup name with
        | some value => status := max status (← print (line name value))
        | none =>
          tell ("alias: ".toList ++ name ++ " not found\n".toList)
          status := 1
    return status

def unaliasNames : Builtin := fun args => do
  let (options, names) ← optionsOf [('a', false)] args
  if !options.isEmpty then
    modify fun sh => { sh with aliases := [] }
    return 0
  let mut status := 0
  for name in names do
    if ((← get).aliases.lookup name).isSome then
      modify fun sh => { sh with aliases := sh.aliases.filter (·.1 ≠ name) }
    else
      tell ("unalias: ".toList ++ name ++ " not found\n".toList)
      status := 1
  return status

/-- Shows or sets what files that are made are not allowed. -/
def setMask : Builtin := fun args => do
  let (options, args) ← optionsOf [('S', false)] args
  let mask := (← get).mask
  match args with
  | [] =>
    if options.isEmpty then
      let digits := Nat.toDigits 8 mask
      print (List.replicate (4 - digits.length) '0' ++ digits ++ ['\n'])
    else
      let part (who : Char) (bits : Nat) : Text :=
        who :: '=' :: (if bits &&& 4 = 0 then ['r'] else []) ++ (if bits &&& 2 = 0 then ['w'] else []) ++
          (if bits &&& 1 = 0 then ['x'] else [])
      print (part 'u' (mask / 64) ++ ',' :: part 'g' (mask / 8) ++ ',' :: part 'o' mask ++ ['\n'])
  | mode :: _ =>
    if (mode.head?).any Char.isDigit then
      if mode.all (fun c => '0' ≤ c && c ≤ '7') then
        let mask := mode.foldl (fun n c => n * 8 + (c.toNat - '0'.toNat)) 0 % 512
        modify fun sh => { sh with mask }
        return 0
      else fail ("Illegal number: ".toList ++ mode)
    else
      match symbolicMask mask (mode.splitOn ',') with
      | some mask =>
        modify fun sh => { sh with mask }
        return 0
      | none => fail ("Illegal mode: ".toList ++ mode)
where
  /-- The mask after changes of what is allowed. -/
  symbolicMask (mask : Nat) : List Text → Option Nat
    | [] => some mask
    | clause :: clauses => do
      let (who, rest) := clause.span "ugoa".toList.contains
      let (operator, letters) ← match rest with
        | c :: letters => if "=+-".toList.contains c then some (c, letters) else none
        | [] => none
      if !letters.all "rwx".toList.contains then none
      else
        let part (c : Char) : Nat := if c = 'u' then 64 else if c = 'g' then 8 else if c = 'o' then 1 else 73
        let parts := (if who.isEmpty then ['a'] else who).foldl (fun n c => n ||| part c) 0
        let bits := (if letters.contains 'r' then 4 else 0) + (if letters.contains 'w' then 2 else 0) +
          (if letters.contains 'x' then 1 else 0)
        let allowed := 511 - mask
        let changed := parts * bits
        let allowed :=
          if operator = '+' then allowed ||| changed
          else if operator = '-' then allowed &&& (511 - changed)
          else (allowed &&& (511 - parts * 7)) ||| changed
        symbolicMask (511 - allowed) clauses

end DocViewer.Script
