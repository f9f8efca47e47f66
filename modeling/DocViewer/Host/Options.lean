import DocViewer.Host.System

/-!
# Options of programs

The programs of the host read their options in one way (`Vocabulary.read`): short options are letters behind a dash and
can stand together, long ones follow two dashes and can be cut short as long as one is meant. Options and other
arguments can be mixed; all that follows `--` is no option.
-/

namespace DocViewer.Host

/-- Whether a long option has a value behind an equals sign. -/
inductive ValueRule
  | never
  | always
  | maybe
  deriving DecidableEq

/-- The options of a program. A long option does what a letter does. -/
structure Vocabulary where
  /-- The letters, and whether they take a value. -/
  short : List (Char × Bool)
  long : List (String × ValueRule × Char)

/-- The options given, by their letters and with their values, and the other arguments. -/
structure Given where
  options : List (Char × Text) := []
  operands : List Text := []

namespace Vocabulary

/-- The long option that a name means. -/
def longOption (v : Vocabulary) (name : Text) : Except Text (ValueRule × Char × Text) :=
  let full := v.long.find? fun (long, _) => long.toList = name
  let starts := v.long.filter fun (long, _) => name.isPrefixOf long.toList
  match full, starts with
  | some (long, rule, letter), _ => .ok (rule, letter, long.toList)
  | none, [(long, rule, letter)] => .ok (rule, letter, long.toList)
  | none, [] => .error ("unrecognized option '--".toList ++ name ++ "'".toList)
  | none, (long, rule, letter) :: others =>
    if others.all fun (_, r, l) => r = rule && l = letter then .ok (rule, letter, long.toList)
    else
      let listed := starts.flatMap fun (long, _) => " '--".toList ++ long.toList ++ "'".toList
      .error ("option '--".toList ++ name ++ "' is ambiguous; possibilities:".toList ++ listed)

/-- The letters behind a dash, and the arguments that are left. -/
def readLetters (v : Vocabulary) (done : List (Char × Text)) (rest : List Text) :
    Text → Except Text (List (Char × Text) × List Text)
  | [] => .ok (done, rest)
  | c :: letters =>
    match v.short.lookup c with
    | none => .error ("invalid option -- '".toList ++ c :: "'".toList)
    | some false => v.readLetters ((c, []) :: done) rest letters
    | some true =>
      if !letters.isEmpty then .ok ((c, letters) :: done, rest)
      else
        match rest with
        | value :: rest => .ok ((c, value) :: done, rest)
        | [] => .error ("option requires an argument -- '".toList ++ c :: "'".toList)

/-- One long option, and the arguments that are left. -/
def readLong (v : Vocabulary) (done : List (Char × Text)) (rest : List Text) (option : Text) :
    Except Text (List (Char × Text) × List Text) := do
  let (name, value) := option.span (· ≠ '=')
  let (rule, letter, long) ← v.longOption name
  match rule, value, rest with
  | .never, [], _ => .ok ((letter, []) :: done, rest)
  | .never, _, _ => .error ("option '--".toList ++ long ++ "' doesn't allow an argument".toList)
  | .maybe, _, _ => .ok ((letter, value.drop 1) :: done, rest)
  | .always, [], value :: rest => .ok ((letter, value) :: done, rest)
  | .always, [], [] => .error ("option '--".toList ++ long ++ "' requires an argument".toList)
  | .always, _, _ => .ok ((letter, value.drop 1) :: done, rest)

/-- Reads arguments with the options and operands so far, the last ones first; as many arguments as `fuel`. -/
def readFrom (v : Vocabulary) (options : List (Char × Text)) (operands : List Text) :
    (fuel : Nat) → List Text → Except Text Given
  | 0, _ => .ok ⟨options.reverse, operands.reverse⟩
  | _ + 1, [] => .ok ⟨options.reverse, operands.reverse⟩
  | fuel + 1, arg :: rest =>
    match arg with
    | ['-', '-'] => .ok ⟨options.reverse, operands.reverse ++ rest⟩
    | '-' :: '-' :: option => do
      let (options, rest) ← v.readLong options rest option
      v.readFrom options operands fuel rest
    | '-' :: c :: letters => do
      let (options, rest) ← v.readLetters options rest (c :: letters)
      v.readFrom options operands fuel rest
    | _ => v.readFrom options (arg :: operands) fuel rest

/-- Reads the arguments of a program. An error is what is wrong with them. -/
def read (v : Vocabulary) (args : List Text) : Except Text Given := v.readFrom [] [] (args.length + 1) args

end Vocabulary

end DocViewer.Host
