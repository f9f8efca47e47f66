import DocViewer.Link.Navigation
import DocViewer.Text.Blank

/-!
# What a search or a link refers to

| input                 | search              | link                    |
|-----------------------|---------------------|-------------------------|
| `man:page(section)`   | manual page         | manual page             |
| `stl:term`            | library page        | relative link           |
| `file://path`         | manual page         | local file              |
| `http://`, `https://` | manual page         | web page                |
| anything else         | manual page         | relative link           |

A `man:` or `stl:` URL that does not parse is malformed. `splitReference?` finds the section of a manual page in the
last parentheses that can hold one.
-/

namespace DocViewer

inductive Target
  | man (page sections : Text)
  | stl (term : Text)
  | file (path : Text)
  | web (url : Text)
  | malformed (input : Text)
  deriving DecidableEq

namespace Target

def manScheme : Text := "man:".toList
def stlScheme : Text := "stl:".toList
def fileScheme : Text := "file://".toList
def stdPrefix : Text := "std::".toList

/-- Reads `page(section)` from its last character on: the section holds at least its last character, and reaches back to
the nearest `(` before that. Neither part is empty or holds a newline. -/
def splitReference? (reference : Text) : Option (Text × Text) :=
  if reference.contains '\n' then none
  else
    match reference.reverse with
    | ')' :: last :: rest =>
      match rest.span (· ≠ '(') with
      | (sections, '(' :: c :: page) => some ((c :: page).reverse, (last :: sections).reverse)
      | _ => none
    | _ => none

/-- What is left of a term without a `std::` at its front. -/
def withoutStd (term : Text) : Text := (dropPrefix? stdPrefix term).getD term

/-- A letter, a digit or an underscore, of ASCII. -/
def isTermChar (c : Char) : Bool := c.isAlphanum || c = '_'

/-- The term of `stl:term`, where `std::` may stand in front. -/
def term? (reference : Text) : Option Text :=
  let term := withoutStd reference
  if !term.isEmpty && term.all isTermChar then some term else none

/-- A text that starts with `man:`. -/
def ofManUrl (url : Text) : Target :=
  match (dropPrefix? manScheme url).bind splitReference? with
  | some (page, sections) => .man page sections
  | none => .malformed url

/-- A text that starts with `stl:`. -/
def ofStlUrl (url : Text) : Target :=
  match (dropPrefix? stlScheme url).bind term? with
  | some term => .stl term
  | none => .malformed url

/-- What the text of the search box refers to; a bare name is a page of the default sections. -/
def ofSearch (text sections : Text) : Target :=
  let text := trim text
  if (dropPrefix? manScheme text).isSome then ofManUrl text
  else if (dropPrefix? stlScheme text).isSome then ofStlUrl text
  else .man text sections

/-- What a link on the page at `current` refers to. -/
def ofLink (link : Text) (current : Navigation) : Target :=
  if (dropPrefix? manScheme link).isSome then ofManUrl link
  else
    match dropPrefix? fileScheme link with
    | some path => .file path
    | none =>
      if (dropPrefix? "http://".toList link).isSome || (dropPrefix? "https://".toList link).isSome then .web link
      else .web (current.resolve link)

end Target

end DocViewer
