import DocViewer.Text.Printable

/-!
# Quoted text

A quoted text stands between double quotes. A quote and a backslash in it follow a backslash, some control characters
have names, and every other character that is not printable is written as its code point.
-/

namespace DocViewer

/-- A number in hexadecimal digits. -/
def hexadecimal (n : Nat) : Text := Nat.toDigits 16 n

/-- The written form of a character between double quotes. -/
def quoteChar (c : Char) : Text :=
  if c = '\x00' then "\\0".toList
  else if c = '\t' then "\\t".toList
  else if c = '\n' then "\\n".toList
  else if c = '\r' then "\\r".toList
  else if c = '"' then "\\\"".toList
  else if c = '\\' then "\\\\".toList
  else if isPrintable c then [c]
  else "\\u\x7b".toList ++ hexadecimal c.toNat ++ "\x7d".toList

def quote (t : Text) : Text := '"' :: t.flatMap quoteChar ++ ['"']

/-- Quoted texts in brackets. -/
def quoteList (ts : List Text) : Text := '[' :: ", ".toList.intercalate (ts.map quote) ++ [']']

end DocViewer
