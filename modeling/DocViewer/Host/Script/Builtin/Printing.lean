import DocViewer.Host.Program.Echo
import DocViewer.Host.Script.Arithmetic
import DocViewer.Host.Script.Builtin.Basic
import DocViewer.Host.Script.Builtin.Real

/-!
# Printing in scripts

`echo` always reads escapes. `printf` uses its format again as long as there are arguments that it takes.
-/

namespace DocViewer.Script

open Host

def echo : Builtin := fun args => do
  let (newline, args) := match args with
    | ['-', 'n'] :: rest => (false, rest)
    | _ => (true, args)
  let (text, ended) := ({} : Escapes).text ([' '].intercalate args)
  print (if newline && !ended then text ++ ['\n'] else text)

/-- How a value is laid out. -/
structure Layout where
  left : Bool := false
  zeros : Bool := false
  plus : Bool := false
  space : Bool := false
  alternative : Bool := false
  width : Nat := 0
  precision : Option Nat := none

namespace Layout

def ofFlags (flags : Text) : Layout :=
  { left := flags.contains '-', zeros := flags.contains '0', plus := flags.contains '+', space := flags.contains ' ',
    alternative := flags.contains '#' }

def pad (l : Layout) (t : Text) : Text :=
  let fill := List.replicate (l.width - t.length) ' '
  if l.left then t ++ fill else fill ++ t

def sign (l : Layout) (negative : Bool) : Text :=
  if negative then ['-'] else if l.plus then ['+'] else if l.space then [' '] else []

/-- A text with what stands before its digits, filled up with zeros between them. -/
def filled (l : Layout) (front digits : Text) : Text :=
  let zeros := if l.zeros && !l.left then l.width - (front.length + digits.length) else 0
  l.pad (front ++ List.replicate zeros '0' ++ digits)

/-- A whole number with what stands before its digits. -/
def number (l : Layout) (front digits : Text) : Text :=
  match l.precision with
  | some n =>
    let digits := if n = 0 && digits = ['0'] then [] else digits
    l.pad (front ++ List.replicate (n - digits.length) '0' ++ digits)
  | none => l.filled front digits

def text (l : Layout) (t : Text) : Text :=
  l.pad (match l.precision with
    | some n => t.take n
    | none => t)

end Layout

/-- What `printf` has done so far. -/
structure Printing where
  /-- The last character first. -/
  out : Text := []
  args : List Text
  /-- Whether some argument was no number. -/
  failed : Bool := false

abbrev Printer := StateT Printing Act

namespace Printer

def emit (t : Text) : Printer Unit := modify fun p => { p with out := t.reverse ++ p.out }

/-- The next argument, if there is one. -/
def argument? : Printer (Option Text) := do
  let p ← get
  set { p with args := p.args.tail }
  return p.args.head?

/-- Complains about an argument that is no number, and goes on. -/
def complain (message : Text) : Printer Unit := do
  (warn message : Act Unit)
  modify fun p => { p with failed := true }

def expectEnd (argument rest : Text) : Printer Unit := do
  if rest.isEmpty then return
  if rest = argument then complain (argument ++ ": expected numeric value".toList)
  else complain (argument ++ ": not completely converted".toList)

/-- The next argument as a whole number; a quote stands before a character whose number is meant. -/
def whole (isSigned : Bool) : Printer Int := do
  match ← argument? with
  | none => return 0
  | some t =>
    match t with
    | '\'' :: rest => return ((rest.head?).map fun c => (c.toNat : Int)).getD 0
    | '"' :: rest => return ((rest.head?).map fun c => (c.toNat : Int)).getD 0
    | _ =>
      let digits := t.dropWhile isSpace
      let (negative, digits) := match digits with
        | '-' :: digits => (true, digits)
        | '+' :: digits => (false, digits)
        | digits => (false, digits)
      if !(digits.head?).any Char.isDigit then
        expectEnd t t
        return 0
      else
        let (_, rest) := Arithmetic.numeral digits
        let n := exact digits
        let limit := if isSigned then (if negative then largest + 1 else largest) else 18446744073709551615
        if limit < n then
          if rest.isEmpty then complain (t ++ ": Numerical result out of range".toList) else expectEnd t rest
          return if negative && isSigned then -limit else limit
        else
          expectEnd t rest
          return if negative then -n else n
where
  /-- The value of a numeral, whatever its size. -/
  exact (digits : Text) : Nat :=
    let hex (c : Char) : Bool := c.isDigit || ('a' ≤ c.toLower && c.toLower ≤ 'f')
    let limit := 340282366920938463463374607431768211456
    match digits with
    | '0' :: x :: d :: rest =>
      if (x = 'x' || x = 'X') && hex d then (digitsValue 16 limit hex (d :: rest)).1
      else (digitsValue 8 limit isOctal digits).1
    | '0' :: _ => (digitsValue 8 limit isOctal digits).1
    | _ => (digitsValue 10 limit Char.isDigit digits).1

/-- The next argument as a number with a point. -/
def real : Printer Real := do
  match ← argument? with
  | none => return { negative := false, size := some (0, 1) }
  | some t =>
    let code (rest : Text) : Real := { negative := false, size := some (((rest.head?).map Char.toNat).getD 0, 1) }
    match t with
    | '\'' :: rest => return code rest
    | '"' :: rest => return code rest
    | _ =>
      match Real.read? t with
      | some (r, rest) =>
        expectEnd t rest
        return r
      | none =>
        expectEnd t t
        return { negative := false, size := some (0, 1) }

/-- A size in a format: digits, or an argument for a star. -/
def size (t : Text) : Printer (Option Int × Text) := do
  match t with
  | '*' :: t => return (some (← whole true), t)
  | t =>
    let (digits, t) := t.span Char.isDigit
    return (((String.ofList digits).toNat?).map Int.ofNat, t)

/-- Prints an argument. Whether printing ends. -/
def convert (l : Layout) (kind : Char) (directive : Text) : Printer Bool := do
  let unsigned (base : Nat) (front : Text) : Printer Bool := do
    let n := (← whole false) % UInt64.size
    let digits := Nat.toDigits base n.toNat
    let digits := if kind = 'X' then digits.map Char.toUpper else digits
    let l := if base = 8 && l.alternative && n ≠ 0 then
      { l with precision := some (max (l.precision.getD 1) (digits.length + 1)) } else l
    emit (l.number (if l.alternative && base = 16 && n ≠ 0 then front else []) digits)
    return false
  let signed : Printer Bool := do
    let n ← whole true
    emit (l.number (l.sign (n < 0)) (decimal n.natAbs))
    return false
  match kind with
  | 's' =>
    emit (l.text ((← argument?).getD []))
    return false
  | 'b' =>
    let (text, ended) := ({} : Escapes).text ((← argument?).getD [])
    emit (l.text text)
    return ended
  | 'c' =>
    emit (l.pad [(((← argument?).getD []).head?).getD '\x00'])
    return false
  | 'd' => signed
  | 'i' => signed
  | 'u' => unsigned 10 []
  | 'o' => unsigned 8 []
  | 'x' => unsigned 16 ['0', 'x']
  | 'X' => unsigned 16 ['0', 'X']
  | _ =>
    if "eEfFgG".toList.contains kind then
      let r ← real
      let t := r.size |> Real.shown kind l.alternative l.precision
      let t := if kind.isUpper then t.map Char.toUpper else t
      let l := { l with zeros := l.zeros && r.size.isSome }
      emit (l.filled (l.sign r.negative) t)
      return false
    else
      let _ ← (print (← get).out.reverse : Act Nat)
      (fail (directive ++ ": invalid directive".toList) : Act Bool)

/-- One pass over the format. Whether printing ends. -/
def once : (fuel : Nat) → (format : Text) → Printer Bool
  | 0, _ => return true
  | _ + 1, [] => return false
  | fuel + 1, '\\' :: t => do
    match ({ zeroFirst := false } : Escapes).read? t with
    | some (c, t) =>
      emit [c]
      once fuel t
    | none =>
      emit ['\\']
      once fuel t
  | fuel + 1, '%' :: '%' :: t => do
    emit ['%']
    once fuel t
  | fuel + 1, '%' :: t => do
    let (flags, u) := t.span "-+ #0".toList.contains
    let (width, u) ← size u
    let (precision, u) ← match u with
      | '.' :: u => do
        let (n, u) ← size u
        pure (some (n.getD 0), u)
      | u => pure (none, u)
    let l := Layout.ofFlags flags
    let width := width.getD 0
    let precision := precision.bind fun n => if n < 0 then none else some n.toNat
    let l := { l with left := l.left || decide (width < 0), width := width.natAbs, precision }
    match u with
    | [] =>
      let _ ← (print (← get).out.reverse : Act Nat)
      (fail "missing format character".toList : Act Bool)
    | kind :: u =>
      if ← convert l kind ('%' :: t.take (t.length - u.length)) then return true
      once fuel u
  | fuel + 1, c :: t => do
    emit [c]
    once fuel t

/-- Uses the format until all arguments are taken. -/
def repeated (format : Text) : (fuel : Nat) → Printer Unit
  | 0 => return
  | fuel + 1 => do
    let before := (← get).args.length
    if ← once (format.length + 1) format then return
    let left := (← get).args.length
    if left = 0 || left = before then return
    repeated format fuel

end Printer

def printf : Builtin := fun args => do
  match ← operandsOf args with
  | [] => fail "usage: printf format [arg ...]".toList
  | format :: args =>
    let (_, done) ← (Printer.repeated format (args.length + 1)).run { args }
    let status ← print done.out.reverse
    return if done.failed then 1 else status

end DocViewer.Script
