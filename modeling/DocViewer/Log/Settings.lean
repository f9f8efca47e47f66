import DocViewer.Log.Level

/-!
# Settings of the log

Warnings and errors are logged unless fewer or more levels are asked for.
-/

namespace DocViewer.Log

inductive Format
  | pretty
  | compact
  | json
  deriving DecidableEq

namespace Format

def all : List Format := [.pretty, .compact, .json]

def name : Format → String
  | .pretty => "pretty"
  | .compact => "compact"
  | .json => "json"

def ofName? (name : String) : Option Format := all.find? fun format => format.name = name

end Format

structure Settings where
  /-- The least severe level that is logged. -/
  level : Level := .warn
  format : Format := .pretty
  /-- Whether levels are coloured. -/
  ansi : Bool := true
  deriving DecidableEq

/-- The settings for a number of requests for more, unless only errors are wanted. -/
def Settings.ofVerbosity (verbose : Nat) (quiet : Bool) : Settings :=
  let level : Level :=
    if quiet then .error
    else
      match verbose with
      | 0 => .warn
      | 1 => .info
      | 2 => .debug
      | _ => .trace
  { level }

end DocViewer.Log
