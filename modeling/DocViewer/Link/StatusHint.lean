import DocViewer.Text.Basic

/-!
# The status line

At most one hint is on display: the URL of the link under the pointer. Every hint has a number of 32 bits, one more
than that of the hint before it.
-/

namespace DocViewer

/-- The hint on display with its number, and the number given last. -/
structure StatusHint where
  display : Option (UInt32 × Text)
  last : UInt32
  deriving DecidableEq

namespace StatusHint

def new : StatusHint := ⟨none, 0⟩

/-- The number that a hover gives to the new hint, if there is one. -/
def number (h : StatusHint) : Option Text → Option UInt32
  | none => none
  | some _ => some (h.last + 1)

/-- The pointer enters a link, or leaves one. -/
def hover (h : StatusHint) : Option Text → StatusHint
  | none => { h with display := none }
  | some url => ⟨some (h.last + 1, url), h.last + 1⟩

/-- The URL on display. -/
def shown (h : StatusHint) : Option Text := h.display.map (·.2)

/-- The number of the hint on display. -/
def shownId (h : StatusHint) : Option UInt32 := h.display.map (·.1)

end StatusHint

end DocViewer
