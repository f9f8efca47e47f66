import DocViewer.Log.Level
import DocViewer.Text.Quoted

/-!
# Records of the log

A record has a level, the source it comes from, a message, and named values. A value is a text that is quoted or shown
as it is, or a number. A record is written as a line (`Record.line`) or as an object (`Record.object`).
-/

namespace DocViewer.Log

inductive Value
  | quoted (text : Text)
  | shown (text : Text)
  | number (n : Nat)
  deriving DecidableEq

structure Record where
  level : Level
  source : String
  message : Text
  fields : List (String × Value) := []
  deriving DecidableEq

def Value.render : Value → Text
  | .quoted text => quote text
  | .shown text => text
  | .number n => (toString n).toList

/-- A number in hexadecimal digits, at least so many. -/
def hexadecimal (width n : Nat) : Text :=
  let digits := Nat.toDigits 16 n
  List.replicate (width - digits.length) '0' ++ digits

/-- The control characters that a terminal acts on are written as escapes in a message. -/
def visible (message : Text) : Text :=
  message.flatMap fun c =>
    if "\x1b\x07\x08\x0c\x7f".toList.contains c then "\\x".toList ++ hexadecimal 2 c.toNat
    else if 0x80 ≤ c.toNat && c.toNat ≤ 0x9f then "\\u\x7b".toList ++ hexadecimal 2 c.toNat ++ ['\x7d']
    else [c]

/-- The line of a record: its level in five columns, its message, and its values with their names. -/
def Record.line (r : Record) : Text :=
  let level := r.level.name.toList
  List.replicate (5 - level.length) ' ' ++ level ++ ' ' :: visible r.message ++
    r.fields.flatMap fun (name, value) => ' ' :: name.toList ++ '=' :: value.render

/-- A text as a string of an object. -/
def objectString (t : Text) : Text :=
  let escape (c : Char) : Text :=
    if c = '"' || c = '\\' then ['\\', c]
    else
      match [('\x08', 'b'), ('\t', 't'), ('\n', 'n'), ('\x0c', 'f'), ('\r', 'r')].lookup c with
      | some letter => ['\\', letter]
      | none => if c.toNat < 0x20 then "\\u".toList ++ hexadecimal 4 c.toNat else [c]
  '"' :: t.flatMap escape ++ ['"']

def objectOf (members : List (Text × Text)) : Text :=
  '\x7b' :: [','].intercalate (members.map fun (name, value) => objectString name ++ ':' :: value) ++ ['\x7d']

def Value.member : Value → Text
  | .quoted text => objectString text
  | .shown text => objectString text
  | .number n => (toString n).toList

/-- The object of a record. -/
def Record.object (r : Record) : Text :=
  let fields := r.fields.map fun (name, value) => (name.toList, value.member)
  objectOf [("level".toList, objectString r.level.name.toList),
    ("fields".toList, objectOf (("message".toList, objectString r.message) :: fields)),
    ("target".toList, objectString r.source.toList)]

/-- What is written beside the pages: a record of the log, or a line for the reader. -/
inductive Notice
  | record (r : Record)
  | line (text : Text)
  deriving DecidableEq

end DocViewer.Log
