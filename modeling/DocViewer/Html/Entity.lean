import DocViewer.Html.EntityNames
import DocViewer.Text.Basic

/-!
# Reading character entities

An ampersand opens an entity and the next semicolon closes it; a further ampersand before the semicolon opens it anew.
What stands between is a name of the table, or `#` and a decimal number, or `#x` and a hexadecimal one (`Entity.char?`).
Anything else is text and stays as it is.
-/

namespace DocViewer.Entity

/-- The character with a code point below 2 ^ 32, the surrogates left out. -/
def scalar? (n : Nat) : Option Char := if h : n.isValidChar then some (Char.ofNatAux n h) else none

/-- The value of a digit: `0` to `9`, then the letters `a` to `f` in any case. -/
def digit (c : Char) : Nat :=
  if c ≤ '9' then c.toNat - '0'.toNat
  else if c ≤ 'F' then c.toNat - 'A'.toNat + 10
  else c.toNat - 'a'.toNat + 10

def isHexDigit (c : Char) : Bool := c.isDigit || ('a' ≤ c && c ≤ 'f') || ('A' ≤ c && c ≤ 'F')

/-- The most digits, zeros in front left out, that a number below 2 ^ 63 has. -/
def digitLimit : Nat := 19

/-- A number of at least one digit that is below 2 ^ 63. -/
def number? (base : Nat) (isDigit : Char → Bool) (digits : Text) : Option Nat :=
  if digits.isEmpty || !digits.all isDigit || digitLimit < (digits.dropWhile (· = '0')).length then none
  else
    let n := digits.foldl (fun n c => n * base + digit c) 0
    if n < 0x8000000000000000 then some n else none

/-- The character of the code point that the low 32 bits of a number are. -/
def numbered? (n : Option Nat) : Option Char := n.bind fun n => scalar? (n % UInt32.size)

/-- The character that a name of the table stands for. -/
def named? (name : Text) : Option Char := (table.lookup (String.ofList name)).bind scalar?

/-- The character that `&…;` stands for, given what is between. -/
def char? : Text → Option Char
  | '#' :: 'x' :: digits => numbered? (number? 16 isHexDigit digits)
  | '#' :: 'X' :: digits => numbered? (number? 16 isHexDigit digits)
  | '#' :: digits => numbered? (number? 10 Char.isDigit digits)
  | name => named? name

/-- `decode` with the text so far and the entity that is open, both with the last character first. -/
def decodeFrom (text : Text) (entity : Option Text) : Text → Text
  | [] =>
    match entity with
    | none => text.reverse
    | some e => (e ++ '&' :: text).reverse
  | c :: t =>
    match entity with
    | none => if c = '&' then decodeFrom text (some []) t else decodeFrom (c :: text) none t
    | some e =>
      if c = '&' then decodeFrom (e ++ '&' :: text) (some []) t
      else if c = ';' then
        match char? e.reverse with
        | some d => decodeFrom (d :: text) none t
        | none => decodeFrom (';' :: e ++ '&' :: text) none t
      else decodeFrom text (some (c :: e)) t

/-- The text with every entity read. -/
def decode (t : Text) : Text := decodeFrom [] none t

end DocViewer.Entity
