import DocViewer.Text.Basic

/-!
# Entries of the index of the library

A line of the index page is an entry when it holds a link to a page, labelled with a term, at the end of a table cell:
`<A href="page.html">term</A></TD>`, where the parameters of a template may follow the term, as in
`term&lt;T&gt;</A></TD>`. Of several ways to end the link on a line the last one counts (`lastLabel?`), and of several
ways to open it the last one that leaves a name for the page.

The end and the opening are looked for one after the other, so that a line is read a fixed number of times.
-/

namespace DocViewer.Stl

structure Entry where
  term : Text
  href : Text
  deriving DecidableEq

/-- A small letter, a digit or an underscore, of ASCII. -/
def isLabelChar (c : Char) : Bool := c.isLower || c.isDigit || c = '_'

def cellEnd : Text := "</A></TD>".toList

/-- How parameters start, and how they end together with the cell. -/
def parametersStart : Text := "&lt;".toList

def parametersEnd : Text := "&gt;".toList ++ cellEnd

def pageSuffix : Text := ".html".toList

/-- The label between `.html">` at the front of the text and `mark`. -/
def label? (mark t : Text) : Option Text := do
  let t ← dropPrefix? (pageSuffix ++ "\">".toList) t
  let (label, rest) := t.span isLabelChar
  let _ ← dropPrefix? mark rest
  if label.isEmpty then none else some label

/-- The last label with what stands before it: of the labels at the end of a cell, and of those with parameters that an
end of a cell follows. -/
def lastLabel? (line : Text) : Option (Text × Text) :=
  let plain := splitLast? (label? cellEnd) line
  let withParameters := (splitLast? (dropPrefix? parametersEnd) line).bind fun (before, _) =>
    splitLast? (label? parametersStart) before
  match plain, withParameters with
  | some p, some q => if p.1.length < q.1.length then some q else some p
  | p, q => p.or q

/-- The name of a page, which is what follows `<A href="` at the front of the text. -/
def pageName? (t : Text) : Option Text :=
  (dropPrefix? "<A href=\"".toList t).bind fun name => if name.isEmpty then none else some name

/-- The entry of a line. -/
def Entry.ofLine? (line : Text) : Option Entry := do
  let (before, term) ← lastLabel? line
  let (_, name) ← splitLast? pageName? before
  return ⟨term, name ++ pageSuffix⟩

end DocViewer.Stl
