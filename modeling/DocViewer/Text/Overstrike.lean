import DocViewer.Text.Basic

/-!
# Overstruck text

Typewriters print bold and underlined letters by going back and striking again. `stripOverstrike` keeps the last
character struck: a backspace erases the character before it, and does nothing at the start of the text.
-/

namespace DocViewer

def backspace : Char := '\x08'

/-- One more character, where the text so far has its last character first. -/
def strike (text : Text) (c : Char) : Text := if c = backspace then text.tail else c :: text

def stripOverstrike (t : Text) : Text := (t.foldl strike []).reverse

end DocViewer
