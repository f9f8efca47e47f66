import DocViewer.Host.Program.Basic

/-!
# Printing arguments

`echo` prints its arguments with a space between two. Escapes, which start with a backslash, are read by a table
(`Escapes`), as the command of the same name in scripts reads them by one of its own.
-/

namespace DocViewer.Host

/-- The value of a digit in any base up to 16. -/
def digitValue (c : Char) : Nat :=
  if c.isDigit then c.toNat - '0'.toNat else c.toLower.toNat - 'a'.toNat + 10

def isOctal (c : Char) : Bool := '0' ≤ c && c ≤ '7'

def isHexadecimal (c : Char) : Bool := c.isDigit || ('a' ≤ c.toLower && c.toLower ≤ 'f')

/-- The number of at most so many digits at the front. -/
def digitsFrom (isDigit : Char → Bool) (base : Nat) : (count : Nat) → Nat → Text → Nat × Text
  | 0, n, t => (n, t)
  | _ + 1, n, [] => (n, [])
  | k + 1, n, c :: t => if isDigit c then digitsFrom isDigit base k (n * base + digitValue c) t else (n, c :: t)

/-- The characters that a letter after a backslash stands for. -/
def escapes : List (Char × Char) :=
  [('a', '\x07'), ('b', '\x08'), ('e', '\x1b'), ('f', '\x0c'), ('n', '\n'), ('r', '\r'), ('t', '\t'), ('v', '\x0b'),
    ('\\', '\\')]

/-- Which numbers stand for bytes: octal ones after a zero or without, and hexadecimal ones after an `x`. -/
structure Escapes where
  zeroFirst : Bool := true
  hexadecimal : Bool := false
  /-- Whether `\c` ends the text. -/
  ends : Bool := true

/-- The byte that a number is. -/
def byteOf (n : Nat) : Char := Char.ofNat (n % 256)

/-- The character that stands for an escape, whose backslash is left out, and what follows. -/
def Escapes.read? (e : Escapes) : Text → Option (Char × Text)
  | [] => none
  | c :: t =>
    match escapes.lookup c with
    | some d => some (d, t)
    | none =>
      if c = '0' && e.zeroFirst then
        let (n, t) := digitsFrom isOctal 8 3 0 t
        some (byteOf n, t)
      else if isOctal c then
        let (n, t) := digitsFrom isOctal 8 3 0 (c :: t)
        some (byteOf n, t)
      else if c = 'x' && e.hexadecimal then
        match t with
        | d :: _ =>
          if isHexadecimal d then
            let (n, t) := digitsFrom isHexadecimal 16 2 0 t
            some (byteOf n, t)
          else none
        | [] => none
      else none

/-- The text with its escapes read, and whether it was ended by one. -/
def Escapes.apply (e : Escapes) : (fuel : Nat) → Text → Text → Text × Bool
  | 0, out, _ => (out.reverse, false)
  | _ + 1, out, [] => (out.reverse, false)
  | fuel + 1, out, '\\' :: t =>
    match t with
    | 'c' :: rest => if e.ends then (out.reverse, true) else e.apply fuel ('c' :: '\\' :: out) rest
    | _ =>
      match e.read? t with
      | some (c, t) => e.apply fuel (c :: out) t
      | none => e.apply fuel ('\\' :: out) t
  | fuel + 1, out, c :: t => e.apply fuel (c :: out) t

def Escapes.text (e : Escapes) (t : Text) : Text × Bool := e.apply (t.length + 1) [] t

/-- The options of `echo`: each starts with a dash and has only the letters `n`, `e` and `E`. -/
def echoOptions (newline escaped : Bool) : List Text → Bool × Bool × List Text
  | ('-' :: c :: letters) :: rest =>
    if (c :: letters).all "neE".toList.contains then
      let escaped := (c :: letters).foldl (fun e l => if l = 'e' then true else if l = 'E' then false else e) escaped
      echoOptions (newline && !(c :: letters).contains 'n') escaped rest
    else (newline, escaped, ('-' :: c :: letters) :: rest)
  | args => (newline, escaped, args)

def echo : Program := fun program args p =>
  let (newline, escaped, args) := echoOptions true false args
  let text := [' '].intercalate args
  let (text, ended) := if escaped then ({ hexadecimal := true } : Escapes).text text else (text, false)
  finish program (narrow (if newline && !ended then text ++ ['\n'] else text)) false p

end DocViewer.Host
