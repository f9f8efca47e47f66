import DocViewer.Host.Script.Shell

/-!
# Commands of the shell

What a command of the shell is, how it reads its options, and how texts are shown in quotes.
-/

namespace DocViewer.Script

open Host

/-- What a command does with its arguments; it gives its status. -/
abbrev Builtin := List Text → Act Nat

/-- The options in front of the arguments, and the arguments behind them. An option is a letter, and the flag in the
list of those allowed tells whether it has a value. -/
def readOptions (allowed : List (Char × Bool)) : (fuel : Nat) → (letters : Text) → List Text →
    Act (List (Char × Text) × List Text)
  | 0, _, args => return ([], args)
  | fuel + 1, c :: letters, args =>
    match allowed.lookup c with
    | none => fail ("Illegal option -".toList ++ [c])
    | some false => do
      let (options, args) ← readOptions allowed fuel letters args
      return ((c, []) :: options, args)
    | some true =>
      match letters, args with
      | [], value :: args => do
        let (options, args) ← readOptions allowed fuel [] args
        return ((c, value) :: options, args)
      | [], [] => fail ("No arg for -".toList ++ c :: " option".toList)
      | value, args => do
        let (options, args) ← readOptions allowed fuel [] args
        return ((c, value) :: options, args)
  | fuel + 1, [], args =>
    match args with
    | ['-', '-'] :: args => return ([], args)
    | ('-' :: c :: letters) :: args => readOptions allowed fuel (c :: letters) args
    | args => return ([], args)

/-- The options and the other arguments of a command. -/
def optionsOf (allowed : List (Char × Bool)) (args : List Text) : Act (List (Char × Text) × List Text) :=
  readOptions allowed (2 * args.flatten.length + 2 * args.length + 2) [] args

/-- The arguments of a command without options. -/
def operandsOf (args : List Text) : Act (List Text) := return (← optionsOf [] args).2

/-- A text in quotes: single ones, and double ones around single ones. -/
def inQuotes : (fuel : Nat) → Text → Text
  | 0, _ => []
  | fuel + 1, t =>
    let (plain, rest) := t.span (· ≠ '\'')
    let (quotes, rest) := rest.span (· = '\'')
    let shown := '\'' :: plain ++ ['\'']
    if quotes.isEmpty then shown
    else
      let shown := shown ++ '"' :: quotes ++ ['"']
      if rest.isEmpty then shown else shown ++ inQuotes fuel rest

def quoted (t : Text) : Text := inQuotes (t.length + 1) t

/-- Texts in the order of their bytes. -/
def sorted (ts : List Text) : List Text := ts.mergeSort fun a b => !decide (b < a)

end DocViewer.Script
