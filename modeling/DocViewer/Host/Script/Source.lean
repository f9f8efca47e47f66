import DocViewer.Host.Script.Statement

/-!
# The text of a script as it is read

A source is what is left of a script, with the number of the line at hand and with the documents that were announced on
this line and follow below it. Readers (`Reader`) take from its front, or fail with what is wrong and where (`Mistake`).
-/

namespace DocViewer.Script

/-- What stands in a statement beside the parts of words. -/
inductive Token
  | finish
  | newline
  | sign (text : String)
  | word (w : Word)
  | reserved (word : String)
  /-- The sign of a redirection, with the digit in front of it. -/
  | redirection (sign : String) (descriptor : Option Nat)

/-- How a token is called in messages. -/
def Token.name : Token → Text
  | .finish => "end of file".toList
  | .newline => "newline".toList
  | .sign s => '"' :: s.toList ++ ['"']
  | .word _ => "word".toList
  | .reserved s => '"' :: s.toList ++ ['"']
  | .redirection .. => "redirection".toList

/-- A document that was announced: its number, the line that ends it, and how its lines are read. -/
structure Awaited where
  number : Nat
  mark : Text
  dropsTabs : Bool
  expands : Bool

structure Source where
  text : Text
  line : Nat := 1
  /-- A token that was read ahead. -/
  ahead : Option Token := none
  /-- The documents announced, the last one first. -/
  awaited : List Awaited := []
  /-- The documents read, by their numbers. -/
  documents : List (Nat × Word) := []
  nextDocument : Nat := 0
  /-- Names that stand for other text where a statement starts. -/
  aliases : List (Text × Text) := []
  /-- Names that were replaced, with the length of the text behind each; a name is not replaced in its own text. -/
  replaced : List (Text × Nat) := []
  /-- The length of the text behind a replacement that ends with a blank: the next word is replaced too. -/
  carriesOn : Option Nat := none

/-- What is wrong with a script, and in which line. -/
structure Mistake where
  line : Nat
  message : Text

abbrev Reader := StateT Source (Except Mistake)

variable {α : Type}

/-- Fails at the line at hand. -/
def mistake (message : String) : Reader α := fun s => .error ⟨s.line, message.toList⟩

def missing? (expected : Option Text) : Text :=
  match expected with
  | some t => " (expecting ".toList ++ t ++ [')']
  | none => []

/-- Fails because of a token that cannot stand here. -/
def unexpected (t : Token) (expected : Option Text := none) : Reader α := fun s =>
  .error ⟨s.line, t.name ++ " unexpected".toList ++ missing? expected⟩

/-- The text behind continued lines, and the number of the line there. -/
def behindContinued (line : Nat) : Text → Nat × Text
  | '\\' :: '\n' :: t => behindContinued (line + 1) t
  | t => (line, t)

/-- The next character; a backslash and a newline count for nothing. -/
def peek : Reader (Option Char) := do
  let s ← get
  let (line, text) := behindContinued s.line s.text
  set { s with line, text }
  return text.head?

/-- Takes the next character, whatever it is. -/
def take : Reader (Option Char) := do
  let s ← get
  match s.text with
  | [] => return none
  | c :: text =>
    set { s with text, line := if c = '\n' then s.line + 1 else s.line }
    return some c

/-- Takes the characters at the front that are accepted. -/
def takeRun (accepts : Char → Bool) : Reader Text := do
  let s ← get
  let (run, text) := s.text.span accepts
  set { s with text, line := s.line + run.count '\n' }
  return run

/-- Takes the characters of a name or a number, which can go on in the next line. -/
def takeName (accepts : Char → Bool) : (fuel : Nat) → Reader Text
  | 0 => return []
  | fuel + 1 => do
    let run ← takeRun accepts
    match ← peek with
    | some c => if accepts c then return run ++ (← takeName accepts fuel) else return run
    | none => return run

/-- Takes the next character if it is the one given. -/
def takeIf (c : Char) : Reader Bool := do
  if (← peek) = some c then
    let _ ← take
    return true
  else return false

def isBlankChar (c : Char) : Bool := c = ' ' || c = '\t'

/-- Skips blanks and a comment. -/
def skipBlanks : (fuel : Nat) → Reader Unit
  | 0 => return
  | fuel + 1 => do
    match ← peek with
    | some c =>
      if isBlankChar c then
        let _ ← takeRun isBlankChar
        skipBlanks fuel
      else if c = '#' then
        let _ ← takeRun (· ≠ '\n')
    | none => return

def putBack (t : Token) : Reader Unit := modify fun s => { s with ahead := some t }

/-- Announces a document, and gives its number. -/
def announce (mark : Text) (dropsTabs expands : Bool) : Reader Nat := do
  let s ← get
  set { s with
    nextDocument := s.nextDocument + 1
    awaited := ⟨s.nextDocument, mark, dropsTabs, expands⟩ :: s.awaited }
  return s.nextDocument

/-- The lines up to the one that is the mark of a document, the last one first, and what follows. A line that continues
the one before is no mark. -/
def cutDocument (a : Awaited) (continued : Bool) (lines : List Text) : (fuel : Nat) → Text → List Text × Text
  | 0, t => (lines, t)
  | _ + 1, [] => (lines, [])
  | fuel + 1, t =>
    let (line, rest) := t.span (· ≠ '\n')
    let line := if a.dropsTabs && !continued then line.dropWhile (· = '\t') else line
    if !continued && line = a.mark then (lines, rest.drop 1)
    else
      match rest with
      | [] => (line :: lines, [])
      | _ :: rest =>
        let continues := a.expands && (line.reverse.takeWhile (· = '\\')).length % 2 = 1
        cutDocument a continues ((line ++ ['\n']) :: lines) fuel rest

/-! ## Words with a meaning -/

def reservedWords : List String :=
  ["!", "case", "do", "done", "elif", "else", "esac", "fi", "for", "if", "in", "then", "until", "while", "\x7b", "\x7d"]

/-- The commands of the shell that no function can replace. An error in one of them ends the shell. -/
def specialCommands : List String :=
  [".", ":", "break", "continue", "eval", "exec", "exit", "export", "local", "readonly", "return", "set", "shift",
    "times", "trap", "unset"]

/-- The reserved word that a word is. -/
def reserved? (w : Word) : Option String :=
  w.plain?.bind fun t => reservedWords.find? fun r => r.toList = t

/-- Whether a token ends a list of statements. -/
def Token.endsList : Token → Bool
  | .finish => true
  | .sign s => s = ")" || s = ";;"
  | .reserved s => ["then", "else", "elif", "fi", "do", "done", "esac", "\x7d"].contains s
  | _ => false

/-- Replaces a name for which other text stands, if the word is one; whether it was. -/
def replaceAlias (w : Word) : Reader Bool := do
  let s ← get
  match w.plain?.bind fun name => (s.aliases.lookup name).map (name, ·) with
  | none => return false
  | some (name, value) =>
    let behind := s.text.length
    if s.replaced.any fun (n, length) => n = name && length < behind + name.length then return false
    else
      let blank := (value.getLast?).any isBlankChar
      set { s with
        text := value ++ s.text
        replaced := (name, behind) :: s.replaced
        carriesOn := if blank then some behind else none }
      return true

end DocViewer.Script
