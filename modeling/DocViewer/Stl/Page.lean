import DocViewer.Text.Letters

/-!
# Pages of the library

`displayPage` makes a page of the library ready for display: its relative links are led to the documentation by a base
tag behind the first `<head>`, or at the front if there is none (`insertBase`), and each table cell that holds nothing
but one line in a teletype font becomes a preformatted block (`preformatCells`).
-/

namespace DocViewer.Stl

/-- The tag that leads relative links to `base`. -/
def baseTag (base : Text) : Text := "<base href=\"".toList ++ base ++ "\">".toList

/-- The tag `<head>` in any case, and what follows it. -/
def headTag? (t : Text) : Option (Text × Text) := (dropFold? "<head>".toList t).map (t.take 6, ·)

def insertBase (base page : Text) : Text :=
  match splitFirst? headTag? page with
  | some (before, head, after) => before ++ head ++ baseTag base ++ after
  | none => baseTag base ++ page

/-- What stands between `<tt>` and `</tt>`, if that is the line at the front of the text, and the rest after it. -/
def teletypeLine? (t : Text) : Option (Text × Text) := do
  let line ← dropFold? "<tt>".toList (t.takeWhile (· ≠ '\n'))
  let code ← dropSuffixFold? "</tt>".toList line
  return (code, t.dropWhile (· ≠ '\n'))

/-- A line in a teletype font between the newline before it and the end of its cell: what replaces it, and the rest. -/
def teletypeCell? (t : Text) : Option (Text × Text) := do
  let t ← dropPrefix? "\n".toList t
  let (code, rest) ← teletypeLine? t
  let rest ← dropFold? "\n</td>".toList rest
  return ("\n<pre>".toList ++ code ++ "</pre></td>\n".toList, rest)

theorem teletypeCell?_shrinks : Shrinks teletypeCell? := by
  intro t new rest h
  simp only [teletypeCell?, teletypeLine?, Option.bind_eq_bind, Option.pure_def, Option.bind_eq_some_iff,
    Option.some.injEq, Prod.mk.injEq] at h
  obtain ⟨t₁, h₁, ⟨code, t₂⟩, ⟨line, h₂, code', h₃, rfl, rfl⟩, t₃, h₄, rfl, rfl⟩ := h
  have := congrArg List.length (dropPrefix?_eq_some.mp h₁)
  have := length_of_dropFold? h₄
  have : (t₁.dropWhile (· ≠ '\n')).length ≤ t₁.length := (List.dropWhile_suffix _).length_le
  have : "\n".toList.length = 1 := rfl
  simp only [List.length_append] at *
  omega

def preformatCells (page : Text) : Text := replaceAll teletypeCell? teletypeCell?_shrinks page

/-- The page, ready for display. -/
def displayPage (page base : Text) : Text := preformatCells (insertBase base page)

end DocViewer.Stl
