import DocViewer.Host.Program.Cat
import DocViewer.Host.Program.Count
import DocViewer.Host.Program.Echo
import DocViewer.Host.Program.Head
import DocViewer.Host.Program.Listing

/-!
# The programs by name

The programs that every host has, apart from the shell.
-/

namespace DocViewer.Host

/-- Ends at once. -/
def idle (status : Nat) : Program := fun _ _ p => (.code status, p)

/-- Whether a text is a stretch of time: a number, and the letter of a unit or none. -/
def isDuration (t : Text) : Bool :=
  let (digits, rest) := t.span fun c => c.isDigit || c = '.'
  digits.any Char.isDigit && (rest.isEmpty || (rest.length = 1 && rest.all "smhd".toList.contains))

/-- Waiting takes no time here. -/
def sleep : Program := fun program args p =>
  match args.find? (!isDuration ·), args with
  | some wrong, _ => misused program ("invalid time interval '".toList ++ wrong ++ "'".toList) 1 p
  | none, [] => misused program "missing operand".toList 1 p
  | none, _ => (.code 0, p)

def programs : List (Text × Program) :=
  [("echo".toList, echo), ("cat".toList, cat), ("head".toList, head), ("wc".toList, wc), ("ls".toList, ls),
    ("sleep".toList, sleep), ("true".toList, idle 0), ("false".toList, idle 1)]

end DocViewer.Host
