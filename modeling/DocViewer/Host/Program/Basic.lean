import DocViewer.Host.Options

/-!
# Programs of the host

What a program is, and what the programs of the host have in common: how they tell of faults, how they name files in
messages, and how they end.
-/

namespace DocViewer.Host

/-- What a program does that is started with a name and arguments, and how it ends. -/
abbrev Program := (name : Text) → (args : List Text) → Process → ExitStatus × Process

/-- The text of a fault without its number. -/
def faultText (fault : Fault) : Text := (fault.message.takeWhile (· ≠ '(')).dropLast

/-! ## Names in messages -/

/-- Characters that stand for themselves in a shell. -/
def isPlainCharacter (c : Char) : Bool := c.isAlphanum || "%+,-./:@]_\x7b\x7d".toList.contains c

def isPrintableByte (c : Char) : Bool := ' ' ≤ c && c ≤ '~'

/-- A byte that cannot be printed, as it stands between `$'` and `'`. -/
def escapedByte (c : Char) : Text :=
  match c with
  | '\x07' => ['\\', 'a']
  | '\x08' => ['\\', 'b']
  | '\t' => ['\\', 't']
  | '\n' => ['\\', 'n']
  | '\x0b' => ['\\', 'v']
  | '\x0c' => ['\\', 'f']
  | '\r' => ['\\', 'r']
  | c =>
    let digit (n : Nat) : Char := Char.ofNat (n % 8 + '0'.toNat)
    ['\\', digit (c.toNat / 64), digit (c.toNat / 8), digit c.toNat]

/-- What stands between the quotes of a name; `escaping` tells whether bytes that cannot be printed come before. -/
def quotedFrom : (escaping : Bool) → Text → Text
  | true, [] => "'".toList
  | false, [] => "'".toList
  | escaping, c :: t =>
    if !isPrintableByte c then
      if escaping then escapedByte c ++ quotedFrom true t else "'$'".toList ++ escapedByte c ++ quotedFrom true t
    else
      let opened : Text := if escaping then "''".toList else []
      if c = '\'' then opened ++ "'\\''".toList ++ quotedFrom false t else opened ++ c :: quotedFrom false t

/-- A name in quotes, so that a shell reads it as it is. -/
def quotedName (name : Text) : Text :=
  if name.contains '\'' && name.all (fun c => isPlainCharacter c || " '#~".toList.contains c) then '"' :: name ++ ['"']
  else '\'' :: quotedFrom false name

/-- A name in quotes if a shell would not read it as it is. -/
def shownName (name : Text) : Text :=
  if !name.isEmpty && name.all isPlainCharacter then name
  else
    match name with
    | [] => quotedName []
    | c :: t =>
      if (isPlainCharacter c) && t.all (fun c => isPlainCharacter c || c = '#' || c = '~') then name
      else quotedName name

/-! ## Messages and endings -/

def messageOf (program message : Text) : Text := program ++ ": ".toList ++ message ++ ['\n']

/-- Ends because the arguments are wrong. -/
def misused (program message : Text) (code : Nat) (p : Process) : ExitStatus × Process :=
  let hint := "Try '".toList ++ program ++ " --help' for more information.\n".toList
  (.code code, p.warn (messageOf program message ++ hint))

/-- How a program ends that may have ended on the way. -/
def ending (status : ExitStatus) (p : Process) : ExitStatus × Process := (p.ended.getD status, { p with ended := none })

/-- Writes the output that was held back, and ends. -/
def finish (program : Text) (out : Bytes) (failed : Bool) (p : Process) : ExitStatus × Process :=
  match p.write 1 out with
  | .ok p => ending (.code (if failed then 1 else 0)) p
  | .error fault => (.code 1, p.warn (messageOf program ("write error: ".toList ++ faultText fault)))

/-- The stream of the file that an operand names, where a dash names the input; the process has it open as the
descriptor given. -/
def openOperand (p : Process) (operand : Text) : Except Fault (Nat × Process) :=
  if operand = ['-'] then .ok (0, p)
  else (p.openFile .read (pathOf operand)).map fun (id, p) => (operandDescriptor, p.attach operandDescriptor id)
where
  /-- Free for operands. -/
  operandDescriptor : Nat := 1000

end DocViewer.Host
