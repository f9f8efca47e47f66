import DocViewer.Host.Script.Shell

/-!
# Numbers with a point

The numbers that `printf` prints in decimals: fractions of whole numbers, rounded to 53 bits.
-/

namespace DocViewer.Script

open Host

/-- A number: its sign, and its size as a fraction; without a size it is beyond all others. -/
structure Real where
  negative : Bool
  size : Option (Nat × Nat)

namespace Real

/-- The whole number closest to a fraction, the even one of two. -/
def nearest (numerator denominator : Nat) : Nat :=
  let q := numerator / denominator
  let twice := 2 * (numerator % denominator)
  if twice < denominator || (twice = denominator && q % 2 = 0) then q else q + 1

def power (base n : Nat) : Nat := n.repeat (· * base) 1

/-- A fraction times a power of two. -/
def scaled (numerator denominator : Nat) (exponent : Int) : Nat × Nat :=
  if 0 ≤ exponent then (numerator * power 2 exponent.toNat, denominator)
  else (numerator, denominator * power 2 exponent.natAbs)

/-- The fraction closest to another one among those of 53 bits. -/
def round (numerator denominator : Nat) : Option (Nat × Nat) :=
  if numerator = 0 then some (0, 1)
  else
    let guess : Int := (Nat.log2 numerator : Int) - Nat.log2 denominator - 52
    let (n, d) := scaled numerator denominator (-guess)
    let exponent := max (-1074) (if n < d * 4503599627370496 then guess - 1 else guess)
    let (n, d) := scaled numerator denominator (-exponent)
    let m := nearest n d
    if 971 < exponent || (exponent = 971 && 9007199254740992 ≤ m) then none else some (scaled m 1 exponent)

/-- The number at the front of a text, and what follows. -/
def read? (t : Text) : Option (Real × Text) :=
  let t := t.dropWhile isSpace
  let (negative, t) := match t with
    | '-' :: t => (true, t)
    | '+' :: t => (false, t)
    | t => (false, t)
  let (whole, rest) := t.span Char.isDigit
  let (part, rest) := match rest with
    | '.' :: rest => rest.span Char.isDigit
    | rest => ([], rest)
  if whole.isEmpty && part.isEmpty then
    if "inf".toList.isPrefixOf (t.map Char.toLower) then some ({ negative, size := none }, t.drop 3) else none
  else
    let (exponent, rest) : Int × Text := match rest with
      | e :: more =>
        let (minus, digits) := match more with
          | '-' :: digits => (true, digits)
          | '+' :: digits => (false, digits)
          | digits => (false, digits)
        if (e = 'e' || e = 'E') && (digits.head?).any Char.isDigit then
          let (n, rest) := digitsValue 10 9999 Char.isDigit digits
          (if minus then -n else n, rest)
        else (0, rest)
      | [] => (0, [])
    let digits := (digitsValue 10 (power 10 (whole.length + part.length)) Char.isDigit (whole ++ part)).1
    let exponent := exponent - part.length
    let size :=
      if 0 ≤ exponent then round (digits * power 10 exponent.toNat) 1
      else round digits (power 10 exponent.natAbs)
    some ({ negative, size }, rest)

/-- The digits of a fraction with so many behind the point. -/
def fixed (n d places : Nat) (point : Bool) : Text :=
  let digits := decimal (nearest (n * power 10 places) d)
  let digits := List.replicate (places + 1 - digits.length) '0' ++ digits
  let whole := digits.take (digits.length - places)
  whole ++ if places = 0 && !point then [] else '.' :: digits.drop whole.length

/-- The power of ten just below a fraction that is not zero: found from the number of its digits. -/
def magnitude (n d : Nat) : Int :=
  let guess : Int := (decimal n).length - (decimal d).length
  let below (x : Int) : Bool :=
    if 0 ≤ x then d * power 10 x.toNat ≤ n else d ≤ n * power 10 x.natAbs
  if below guess then guess else guess - 1

/-- The digits, from the first one on, and the power of ten of the first one. -/
def leading (n d places : Nat) : Nat × Int :=
  if n = 0 then (0, 0)
  else
    let x := magnitude n d
    let shift := (places : Int) - x
    let m := if 0 ≤ shift then nearest (n * power 10 shift.toNat) d else nearest n (d * power 10 shift.natAbs)
    if m = power 10 (places + 1) then (m / 10, x + 1) else (m, x)

def exponential (n d places : Nat) (point : Bool) : Text :=
  let (m, x) := leading n d places
  let digits := decimal m
  let digits := digits ++ List.replicate (places + 1 - digits.length) '0'
  let exponent := decimal x.natAbs
  digits.take 1 ++ (if places = 0 && !point then [] else '.' :: digits.drop 1) ++
    'e' :: (if x < 0 then '-' else '+') :: (if exponent.length < 2 then '0' :: exponent else exponent)

/-- A text without the zeros at the end of its decimals. -/
def withoutZeros (t : Text) : Text :=
  let (number, exponent) := t.span (· ≠ 'e')
  if !number.contains '.' then t
  else
    let number := number.reverse.dropWhile (· = '0')
    let number := if number.head? = some '.' then number.drop 1 else number
    number.reverse ++ exponent

/-- The size of a number, laid out by the letter of a conversion. -/
def shown (kind : Char) (alternative : Bool) (precision : Option Nat) : Option (Nat × Nat) → Text
  | none => "inf".toList
  | some (n, d) =>
    let places := precision.getD 6
    match kind.toLower with
    | 'f' => fixed n d places alternative
    | 'e' => exponential n d places alternative
    | _ =>
      let places := max places 1
      let (_, x) := leading n d (places - 1)
      let t :=
        if -4 ≤ x && x < places then fixed n d ((places - 1 : Int) - x).toNat alternative
        else exponential n d (places - 1) alternative
      if alternative then t else withoutZeros t

end Real

end DocViewer.Script
