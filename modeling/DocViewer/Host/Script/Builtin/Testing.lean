import DocViewer.Host.Script.Builtin.Basic

/-!
# Tests

`test` and `[` read their arguments as an expression: tests of one value or two, joined by `-a` and `-o`, with `!` in
front of some and parentheses around some. With three or four arguments, an operator in the middle, parentheses around
all, and `!` at the front come first.
-/

namespace DocViewer.Script

open Host

/-- What an argument of a test can be. -/
inductive TestToken
  | unary (operator : Char)
  | binary (operator : String)
  | both
  | either
  | not
  | opening
  | closing
  | operand
  | finish
  deriving DecidableEq

def binaryTests : List String :=
  ["=", "!=", "<", ">", "-eq", "-ne", "-ge", "-gt", "-le", "-lt", "-nt", "-ot", "-ef"]

/-- What an argument is by itself. -/
def testToken (t : Text) : TestToken :=
  match t with
  | ['!'] => .not
  | ['('] => .opening
  | [')'] => .closing
  | ['-', 'a'] => .both
  | ['-', 'o'] => .either
  | ['-', c] => if "rwxefdcbpugkstznhOGLS".toList.contains c then .unary c else .operand
  | t =>
    match binaryTests.find? (·.toList = t) with
    | some operator => .binary operator
    | none => .operand

/-- What the first argument is in front of the others. -/
def firstToken : List Text → TestToken
  | [] => .finish
  | t :: rest =>
    match testToken t, rest with
    | .unary _, [] => .operand
    | .opening, [] => .operand
    | .unary c, next :: _ :: _ =>
      match testToken next with
      | .binary _ => .operand
      | _ => .unary c
    | token, _ => token

def fileTest (operator : Char) (file : Text) : Act Bool := do
  let found : Except Fault Entry := (← get).system.disk.find (pathOf file)
  let isDevice := ["/dev/null", "/dev/tty", "/dev/zero"].any (·.toList = file)
  match operator with
  | 'c' => return isDevice
  | 'f' => return found.toOption.any (· ≠ .directory) && !isDevice
  | 'd' => return found.toOption = some .directory
  | 'x' => match found with
    | .ok (.file _ executable) => return executable
    | .ok .directory => return true
    | .ok (.unreadable _) | .error _ => return false
  | 's' => match found with
    | .ok (.file data _) => return !data.isEmpty
    | .ok .directory => return true
    | .ok (.unreadable _) | .error _ => return false
  | 'r' | 'w' => match found with
    | .ok (.unreadable _) => return false
    | _ => return found.toBool || isDevice
  | _ => return "eOG".toList.contains operator && (found.toBool || isDevice)

def unaryTest (operator : Char) (t : Text) : Act Bool := do
  match operator with
  | 'n' => return !t.isEmpty
  | 'z' => return t.isEmpty
  | 't' =>
    let _ ← numberOf t
    return false
  | c => fileTest c t

/-- The number that an argument of a test is. -/
def testNumber (t : Text) : Act Int :=
  match decimalNumber? t with
  | some n => return n
  | none => badNumber t

def binaryTest (operator : String) (a b : Text) : Act Bool := do
  let compare (test : Int → Int → Bool) : Act Bool := do
    let m ← testNumber a
    return test m (← testNumber b)
  match operator with
  | "=" => return a = b
  | "!=" => return a ≠ b
  | "<" => return decide (a < b)
  | ">" => return decide (b < a)
  | "-eq" => compare fun m n => m = n
  | "-ne" => compare fun m n => m ≠ n
  | "-lt" => compare fun m n => m < n
  | "-le" => compare fun m n => m ≤ n
  | "-gt" => compare fun m n => n < m
  | "-ge" => compare fun m n => n ≤ m
  | "-ef" =>
    let d := (← get).system.disk
    match d.locate (pathOf a), d.locate (pathOf b) with
    | .ok p, .ok q => return p = q
    | _, _ => return false
  | _ => return false

def unexpectedOperator {α : Type} (args : List Text) : Act α :=
  match args.headD [] with
  | [] => fail "unexpected operator".toList
  | t => fail (t ++ ": unexpected operator".toList)

mutual

/-- Tests joined by `-o`, and what follows the argument read last. -/
def testEither : (fuel : Nat) → List Text → Act (Bool × List Text)
  | 0, args => return (false, args)
  | fuel + 1, args => do
    let (a, args) ← testBoth fuel args
    if firstToken (args.drop 1) = .either then
      let (b, args) ← testEither fuel (args.drop 2)
      return (a || b, args)
    else return (a, args)

/-- Tests joined by `-a`. -/
def testBoth : (fuel : Nat) → List Text → Act (Bool × List Text)
  | 0, args => return (false, args)
  | fuel + 1, args => do
    let (a, args) ← testNegated fuel args
    if firstToken (args.drop 1) = .both then
      let (b, args) ← testBoth fuel (args.drop 2)
      return (a && b, args)
    else return (a, args)

def testNegated : (fuel : Nat) → List Text → Act (Bool × List Text)
  | 0, args => return (false, args)
  | fuel + 1, args => do
    if firstToken args = .not then
      match args.tail with
      | [] => return (true, args)
      | rest =>
        let (a, args) ← testNegated fuel rest
        return (!a, args)
    else testSingle fuel args

/-- A test of one value or two, or one in parentheses. -/
def testSingle : (fuel : Nat) → List Text → Act (Bool × List Text)
  | 0, args => return (false, args)
  | fuel + 1, args => do
    match firstToken args, args with
    | .finish, _ => return (false, args)
    | .opening, _ :: inner =>
      if firstToken inner = .closing then return (false, inner)
      let (a, args) ← testEither fuel inner
      if firstToken (args.drop 1) = .closing then return (a, args.drop 1)
      else fail "closing paren expected".toList
    | .unary c, _ :: value :: rest => return (← unaryTest c value, value :: rest)
    | .unary _, [operator] => fail (operator ++ ": argument expected".toList)
    | _, value :: rest =>
      match firstToken rest, rest with
      | .binary operator, _ :: b :: rest => return (← binaryTest operator value b, b :: rest)
      | .binary operator, _ => fail (operator.toList ++ ": argument expected".toList)
      | _, _ => return (!value.isEmpty, args)
    | _, [] => return (false, [])

end

/-- Whether a test holds. -/
def testAll : (fuel : Nat) → List Text → Act Bool
  | 0, _ => return false
  | fuel + 1, args => do
    let whole (args : List Text) : Act Bool := do
      let (result, args) ← testEither (4 * args.length + 4) args
      if 2 ≤ args.length then unexpectedOperator args else return result
    let outer (args : List Text) : Act Bool := do
      match args with
      | ['('] :: inner =>
        if inner.getLast? = some [')'] then whole inner.dropLast else whole args
      | ['!'] :: rest => return !(← testAll fuel rest)
      | _ => whole args
    match args with
    | [] => return false
    | [a, operator, b] =>
      match testToken operator with
      | .binary operator => binaryTest operator a b
      | _ => outer args
    | [_, _, _, _] => outer args
    | _ => whole args

def test : Builtin := fun args => return if ← testAll (args.length + 1) args then 0 else 1

def testInBrackets : Builtin := fun args => do
  if args.getLast? = some [']'] then test args.dropLast else fail "missing ]".toList

end DocViewer.Script
