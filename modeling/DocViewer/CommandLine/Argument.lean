import DocViewer.CommandLine.Invocation
import DocViewer.Text.Basic

/-!
# Arguments

The commands of the program, the options with a value (`Setting`) and without one (`Switch`), and the forms that an
argument can have. A setting that is not given may come from the environment, or has a default.
-/

namespace DocViewer.CommandLine

inductive Verb
  | search
  | follow
  | terms
  | shell
  deriving DecidableEq

namespace Verb

def all : List Verb := [.search, .follow, .terms, .shell]

def name : Verb → String
  | .search => "search"
  | .follow => "open"
  | .terms => "stl-terms"
  | .shell => "shell"

def ofName? (t : Text) : Option Verb := all.find? fun v => v.name.toList = t

/-- Whether a command takes one more word than it has. -/
def takesWord (v : Verb) (words : Nat) : Bool := match v with
  | .search => true
  | .follow => words = 0
  | .terms => false
  | .shell => false

/-- Whether a command needs a word. -/
def needsWord : Verb → Bool
  | .search => true
  | .follow => true
  | .terms => false
  | .shell => false

end Verb

/-! ## Options -/

inductive Setting
  | output
  | logLevel
  | logFormat
  | stlRoot
  | formatter
  | man
  | sections
  /-- The page that a link is on. -/
  | page
  deriving DecidableEq

inductive Switch
  | verbose
  | quiet
  | noFormatter
  | help
  | version
  deriving DecidableEq

inductive Item
  | setting (s : Setting)
  | switch (s : Switch)
  deriving DecidableEq

/-- The options by their long names. -/
def longNames : List (String × Item) :=
  [("output", .setting .output), ("log-level", .setting .logLevel), ("log-format", .setting .logFormat),
    ("stl-root", .setting .stlRoot), ("formatter", .setting .formatter), ("man", .setting .man),
    ("sections", .setting .sections), ("from", .setting .page), ("verbose", .switch .verbose),
    ("quiet", .switch .quiet), ("no-formatter", .switch .noFormatter), ("help", .switch .help),
    ("version", .switch .version)]

/-- The options by their letters. -/
def letters : List (Char × Item) :=
  [('o', .setting .output), ('v', .switch .verbose), ('q', .switch .quiet), ('h', .switch .help),
    ('V', .switch .version)]

/-- Whether an option may be given with a command, or in front of it if there is none yet. -/
def Item.allowed (verb : Option Verb) : Item → Bool
  | .setting .page => verb = some .follow
  | .switch .version => verb = none
  | _ => true

def Item.ofLong? (verb : Option Verb) (name : Text) : Option Item :=
  ((longNames.find? (·.1.toList = name)).map (·.2)).filter (·.allowed verb)

def Item.ofLetter? (verb : Option Verb) (letter : Char) : Option Item :=
  (letters.lookup letter).filter (·.allowed verb)

namespace Setting

/-- The variable of the environment that gives the value if no argument does. -/
def environmentName? : Setting → Option String
  | .stlRoot => some "GMAN_STL_ROOT"
  | .formatter => some "GMAN_FORMATTER"
  | .man => some "GMAN_MAN"
  | .sections => some "GMAN_SECTIONS"
  | _ => none

def levelOf? (t : Text) : Option Log.Level := Log.Level.all.find? fun level => level.name.toLower.toList = t

/-- Whether a text is a value: paths are not empty, and levels and formats have names. -/
def accepts (s : Setting) (value : Text) : Bool := match s with
  | .output => !value.isEmpty
  | .stlRoot => !value.isEmpty
  | .formatter => !value.isEmpty
  | .logLevel => (levelOf? value).isSome
  | .logFormat => (Log.Format.ofName? (String.ofList value)).isSome
  | .man => true
  | .sections => true
  | .page => true

end Setting

/-! ## Forms -/

/-- The form of an argument. -/
inductive Form
  /-- Two dashes, after which there are only words. -/
  | mark
  | long (name : Text) (value : Option Text)
  | short (letters : Text)
  | word
  deriving DecidableEq

def Form.of : Text → Form
  | ['-', '-'] => .mark
  | '-' :: '-' :: t =>
    match t.span (· ≠ '=') with
    | (name, []) => .long name none
    | (name, _ :: value) => .long name (some value)
  | '-' :: c :: t => .short (c :: t)
  | _ => .word

end DocViewer.CommandLine
