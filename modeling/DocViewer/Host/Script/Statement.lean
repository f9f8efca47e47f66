import DocViewer.Text.Basic

/-!
# Scripts

The statements of a shell script and the words in them. Text is held byte by byte. The text of a document that follows a
statement is kept apart, under a number, because it is read after the statement.
-/

namespace DocViewer.Script

mutual

/-- A part of a word. -/
inductive Part
  | plain (text : Text)
  /-- Text that stands for itself; an empty one too makes a word of its own. -/
  | quoted (text : Text)
  | parameter (name : Text) (use : Use) (inQuotes : Bool)
  /-- What statements print. -/
  | output (body : Statement) (inQuotes : Bool)
  | arithmetic (expression : List Part) (inQuotes : Bool)

/-- What is done with a parameter. -/
inductive Use
  | value
  | length
  /-- `-`, `=`, `+` or `?` and a word; with a colon, an empty value counts as none. -/
  | test (kind : Char) (colon : Bool) (word : List Part)
  /-- Takes the shortest or longest match of a pattern off the front or the end. -/
  | strip (atEnd longest : Bool) (pattern : List Part)
  /-- Something that cannot be done. -/
  | unknown

inductive Redirection
  | read (descriptor : Nat) (name : List Part)
  | write (descriptor : Nat) (name : List Part)
  /-- As `write`, also where files that are there are kept. -/
  | overwrite (descriptor : Nat) (name : List Part)
  | append (descriptor : Nat) (name : List Part)
  | update (descriptor : Nat) (name : List Part)
  /-- The descriptor leads where another one does, or nowhere after a dash. -/
  | duplicate (descriptor : Nat) (source : List Part)
  | document (descriptor number : Nat)

inductive Statement
  /-- Assignments to names, then words, then redirections. -/
  | simple (line : Nat) (assignments : List (Text × List Part)) (words : List (List Part))
      (redirections : List Redirection)
  | pipe (commands : List Statement)
  | background (body : Statement)
  | negate (body : Statement)
  | both (first second : Statement)
  | either (first second : Statement)
  | sequence (first second : Statement)
  | choose (condition yes : Statement) (no : Option Statement)
  /-- Runs the body as long as the condition succeeds, or as long as it fails. -/
  | loop (whileFails : Bool) (condition body : Statement)
  /-- Runs the body for each word, or for each argument. -/
  | each (line : Nat) (name : Text) (words : Option (List (List Part))) (body : Statement)
  /-- Runs the first arm with a pattern that matches the word; an arm can be empty. -/
  | select (line : Nat) (word : List Part) (arms : List (List (List Part) × Option Statement))
  | subshell (line : Nat) (body : Statement) (redirections : List Redirection)
  | define (line : Nat) (name : Text) (body : Statement)
  | redirect (line : Nat) (body : Statement) (redirections : List Redirection)

end

abbrev Word := List Part

/-- The text of a word that is nothing but unquoted text. -/
def Word.plain? : Word → Option Text
  | [.plain t] => some t
  | _ => none

/-- A word without its last parts that are in reverse order in front, where neighbours of one kind are one part. -/
def Word.ofReversed (parts : List Part) : Word :=
  parts.foldl
    (fun word part => match part, word with
      | .plain t, .plain u :: word => .plain (t ++ u) :: word
      | .quoted t, .quoted u :: word => .quoted (t ++ u) :: word
      | part, word => part :: word)
    []

def isNameStart (c : Char) : Bool := c.isAlpha || c = '_'

def isNameChar (c : Char) : Bool := c.isAlphanum || c = '_'

/-- Whether a text is the name of a variable. -/
def isName : Text → Bool
  | c :: t => isNameStart c && t.all isNameChar
  | [] => false

/-- `name=word` at the front of a word. -/
def Word.assignment? : Word → Option (Text × Word)
  | .plain text :: parts =>
    let (name, rest) := text.span isNameChar
    match rest with
    | '=' :: value => if isName name then some (name, if value.isEmpty then parts else .plain value :: parts) else none
    | _ => none
  | _ => none

/-- The text of a word without its quotes; what stands for other text counts for nothing. -/
def Word.literal (w : Word) : Text :=
  w.flatMap fun
    | .plain t => t
    | .quoted t => t
    | _ => []

/-- Whether a word has quotes. -/
def Word.hasQuotes (w : Word) : Bool :=
  w.any fun
    | .quoted _ => true
    | _ => false

end DocViewer.Script
