import DocViewer.Text.Basic

/-!
# Escaped text

The three characters that could be read as markup are written as entities, all others as they are.
-/

namespace DocViewer.Html

/-- The written form of a character. -/
def escapeChar (c : Char) : Text :=
  if c = '&' then "&amp;".toList
  else if c = '<' then "&lt;".toList
  else if c = '>' then "&gt;".toList
  else [c]

def escape (t : Text) : Text := t.flatMap escapeChar

end DocViewer.Html
