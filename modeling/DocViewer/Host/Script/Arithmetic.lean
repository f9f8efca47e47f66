import DocViewer.Host.Script.Shell

/-!
# Arithmetic in scripts

Expressions over whole numbers of 64 bits, with the operators and their ranks as in shell scripts. A name stands for the
number that is the value of the variable. An expression is evaluated as it is read, one token ahead; what lies on the
side of a choice that is not taken is read, but has no effect.
-/

namespace DocViewer.Script

open Host

namespace Arithmetic

/-- The number of 64 bits that a whole number is, modulo their count. -/
def wrap (n : Int) : Int := Int.bmod n UInt64.size

def ofBool (b : Bool) : Int := if b then 1 else 0

def bits (n : Int) : BitVec 64 := BitVec.ofInt 64 n

/-- The bits of a number moved by a count of which six bits matter. -/
def shifted (left : Bool) (a b : Int) : Int :=
  let count := (b % 64).toNat
  if left then (bits a <<< count).toInt else ((bits a).sshiftRight count).toInt

/-- The value of a numeral, hexadecimal after `0x` and octal after `0`, and what follows. -/
def numeral (t : Text) : Nat × Text :=
  match t with
  | '0' :: x :: d :: rest =>
    if (x = 'x' || x = 'X') && (d.isDigit || ('a' ≤ d.toLower && d.toLower ≤ 'f')) then
      digitsValue 16 (largest + 2) (fun c => c.isDigit || ('a' ≤ c.toLower && c.toLower ≤ 'f')) (d :: rest)
    else digitsValue 8 (largest + 2) (fun c => '0' ≤ c && c ≤ '7') t
  | '0' :: _ => digitsValue 8 (largest + 2) (fun c => '0' ≤ c && c ≤ '7') t
  | _ => digitsValue 10 (largest + 2) Char.isDigit t

/-- The number that the value of a variable is; an empty one is zero. -/
def valueOf? (t : Text) : Option Int :=
  let u := t.dropWhile isSpace
  let (negative, digits) := match u with
    | '-' :: t => (true, t)
    | '+' :: t => (false, t)
    | t => (false, t)
  if (digits.head?).any Char.isDigit then
    let (n, rest) := numeral digits
    if !rest.all isSpace then none
    else if negative then if n ≤ largest + 1 then some (-n) else none
    else if n ≤ largest then some n else none
  else if u.isEmpty then some 0
  else none

inductive Token
  | number (n : Int)
  | name (name : Text)
  | sign (sign : String)
  | finish
  deriving DecidableEq

/-- The signs, longer ones before those that start them. -/
def signs : List String :=
  ["<<=", ">>=", "<<", ">>", "<=", ">=", "==", "!=", "&&", "||", "+=", "-=", "*=", "/=", "%=", "&=", "|=", "^=", "+",
    "-", "*", "/", "%", "<", ">", "=", "!", "~", "&", "|", "^", "?", ":", "(", ")"]

def assignments : List String := ["=", "+=", "-=", "*=", "/=", "%=", "<<=", ">>=", "&=", "|=", "^="]

/-- The operators with two sides by their ranks; those of a lower rank bind more. -/
def rank? (operator : String) : Option Nat :=
  [["*", "/", "%"], ["+", "-"], ["<<", ">>"], ["<", "<=", ">", ">="], ["==", "!="], ["&"], ["^"], ["|"]].findIdx?
    (·.contains operator)

/-- The rank of a token that is an operator with two sides. -/
def Token.rank? : Token → Option Nat
  | .sign s => Arithmetic.rank? s
  | _ => none

/-- An expression as it is read. -/
structure Scan where
  whole : Text
  rest : Text
  /-- The token behind what was evaluated last. -/
  last : Token := .finish

abbrev Calculation := StateT Scan Act

def wrong {α : Type} (what : String) : Calculation α := do
  let s ← get
  let message := "arithmetic expression: ".toList ++ what.toList ++ ": \"".toList ++ s.whole ++ ['"']
  (fail message : Act α)

/-- The next token. A character that is none is a sign that fits nowhere. -/
def next : Calculation Token := do
  let s ← get
  let t := s.rest.dropWhile fun c => c = ' ' || c = '\t' || c = '\n'
  match t with
  | [] =>
    set { s with rest := [] }
    return .finish
  | c :: rest =>
    if c.isDigit then
      let (n, rest) := numeral t
      set { s with rest }
      return .number (min n largest)
    else if isNameStart c then
      let (name, rest) := t.span isNameChar
      set { s with rest }
      return .name name
    else
      match signs.find? fun sign => sign.toList.isPrefixOf t with
      | some sign =>
        set { s with rest := t.drop sign.length }
        return .sign sign
      | none =>
        set { s with rest }
        return .sign "unknown"

def setLast (t : Token) : Calculation Unit := modify fun s => { s with last := t }

def lookup (name : Text) : Calculation Int := do
  let value := ((← (valueNamed? name : Act (Option Text)))).getD []
  match valueOf? value with
  | some n => return n
  | none => (badNumber value : Act Int)

def operate (operator : String) (a b : Int) : Calculation Int := do
  match operator with
  | "+" => return wrap (a + b)
  | "-" => return wrap (a - b)
  | "*" => return wrap (a * b)
  | "<<" => return shifted true a b
  | ">>" => return shifted false a b
  | "<" => return ofBool (a < b)
  | ">" => return ofBool (b < a)
  | "<=" => return ofBool (a ≤ b)
  | ">=" => return ofBool (b ≤ a)
  | "==" => return ofBool (a = b)
  | "!=" => return ofBool (a ≠ b)
  | "&" => return (bits a &&& bits b).toInt
  | "|" => return (bits a ||| bits b).toInt
  | "^" => return (bits a ^^^ bits b).toInt
  | _ =>
    if b = 0 then wrong "division by zero"
    else if b = -1 && a = -(largest + 1 : Int) then (throw (.killed 8) : Act Int)
    else return if operator = "%" then a.tmod b else a.tdiv b

mutual

/-- Evaluates from a token on: an assignment, or what an assignment gives. -/
def evalAssignment : (fuel : Nat) → (skip : Bool) → Token → Calculation Int
  | 0, _, _ => wrong "expecting primary"
  | fuel + 1, skip, t => do
    let op ← next
    match t, op with
    | .name name, .sign s =>
      if assignments.contains s then
        let n ← evalAssignment fuel skip (← next)
        if skip then return n
        let n ← if s = "=" then pure n else do operate ((s.dropEnd 1).toString) (← lookup name) n
        (assign name (signed n) : Act Unit)
        return n
      else evalChoice fuel skip t op
    | _, _ => evalChoice fuel skip t op

/-- Evaluates from two tokens on: a choice between two values. -/
def evalChoice : (fuel : Nat) → (skip : Bool) → (t op : Token) → Calculation Int
  | 0, _, _, _ => wrong "expecting primary"
  | fuel + 1, skip, t, op => do
    let a ← evalOr fuel skip t op
    if (← get).last ≠ .sign "?" then return a
    let b ← evalAssignment fuel (skip || a = 0) (← next)
    if (← get).last ≠ .sign ":" then wrong "expecting ':'"
    let t ← next
    let c ← evalChoice fuel (skip || a ≠ 0) t (← next)
    return if a ≠ 0 then b else c

def evalOr : (fuel : Nat) → (skip : Bool) → (t op : Token) → Calculation Int
  | 0, _, _, _ => wrong "expecting primary"
  | fuel + 1, skip, t, op => do
    let a ← evalAnd fuel skip t op
    if (← get).last ≠ .sign "||" then return a
    let t ← next
    let b ← evalOr fuel (skip || a ≠ 0) t (← next)
    return ofBool (a ≠ 0 || b ≠ 0)

def evalAnd : (fuel : Nat) → (skip : Bool) → (t op : Token) → Calculation Int
  | 0, _, _, _ => wrong "expecting primary"
  | fuel + 1, skip, t, op => do
    let a ← evalPrimary fuel skip t op
    let a ← match (← get).last.rank? with
      | some _ => evalOperators fuel skip a 100 (← get).last
      | none => pure a
    if (← get).last ≠ .sign "&&" then return a
    let t ← next
    let b ← evalAnd fuel (skip || a = 0) t (← next)
    return ofBool (a ≠ 0 && b ≠ 0)

/-- Goes on after a value with the operator behind it, up to an operator of the rank given or a higher one. -/
def evalOperators : (fuel : Nat) → (skip : Bool) → (a : Int) → (limit : Nat) → (op : Token) → Calculation Int
  | 0, _, _, _, _ => wrong "expecting primary"
  | fuel + 1, skip, a, limit, op => do
    let t ← next
    let b ← evalPrimary fuel skip t (← next)
    let rank := op.rank?.getD 0
    let after := (← get).last
    let b ← if (after.rank?).any (· < rank) then evalOperators fuel skip b rank after else pure b
    let a ← match skip, op with
      | false, .sign s => operate s a b
      | _, _ => pure b
    let after := (← get).last
    if (after.rank?).any (· < limit) then evalOperators fuel skip a limit after else return a

def evalPrimary : (fuel : Nat) → (skip : Bool) → (t op : Token) → Calculation Int
  | 0, _, _, _ => wrong "expecting primary"
  | fuel + 1, skip, t, op => do
    match t with
    | .number n =>
      setLast op
      return n
    | .name name =>
      setLast op
      if skip then return 0 else lookup name
    | .sign "(" =>
      let n ← evalAssignment fuel skip op
      if (← get).last ≠ .sign ")" then wrong "expecting ')'"
      setLast (← next)
      return n
    | .sign "+" => evalPrimary fuel skip op (← next)
    | .sign "-" => return wrap (-(← evalPrimary fuel skip op (← next)))
    | .sign "!" => return ofBool ((← evalPrimary fuel skip op (← next)) = 0)
    | .sign "~" => return wrap (-(← evalPrimary fuel skip op (← next)) - 1)
    | _ => wrong "expecting primary"

end

def evalWhole (fuel : Nat) : Calculation Int := do
  let n ← evalAssignment fuel false (← next)
  if (← get).last ≠ .finish then wrong "expecting EOF"
  return n

end Arithmetic

/-- The value of an expression. -/
def evaluate (t : Text) : Act Int :=
  (Arithmetic.evalWhole (10 * t.length + 10)).run' { whole := t, rest := t }

end DocViewer.Script
