/-!
# Levels of the log

From the most severe to the least, with their names in capital letters.
-/

namespace DocViewer.Log

inductive Level
  | error
  | warn
  | info
  | debug
  | trace
  deriving DecidableEq

namespace Level

def all : List Level := [.error, .warn, .info, .debug, .trace]

def name : Level → String
  | .error => "ERROR"
  | .warn => "WARN"
  | .info => "INFO"
  | .debug => "DEBUG"
  | .trace => "TRACE"

/-- One for the most severe, up to five. -/
def rank : Level → Nat
  | .error => 1
  | .warn => 2
  | .info => 3
  | .debug => 4
  | .trace => 5

/-- The level with the given name, in any case. -/
def ofName? (name : String) : Option Level := all.find? fun level => level.name = name.toUpper

end Level

end DocViewer.Log
