import DocViewer.Text.Basic

/-!
# Lines

A line ends at a newline, which does not belong to it, nor does one carriage return right before that newline. A last
line without a newline counts when it is not empty, and keeps its carriage return.
-/

namespace DocViewer

/-- One carriage return less at the end of a line whose last character comes first. -/
def dropReturn : Text → Text
  | '\r' :: line => line
  | line => line

/-- `lines` with the lines found so far, the last one first, and the characters of the line at hand, the last one
first. -/
def linesFrom (found : List Text) (line : Text) : Text → List Text
  | [] => (if line.isEmpty then found else line.reverse :: found).reverse
  | c :: t => if c = '\n' then linesFrom ((dropReturn line).reverse :: found) [] t else linesFrom found (c :: line) t

def lines (t : Text) : List Text := linesFrom [] [] t

/-- The first line, or nothing when there is none. -/
def firstLine (t : Text) : Text := (lines t).headD []

end DocViewer
