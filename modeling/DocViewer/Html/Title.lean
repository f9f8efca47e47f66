import DocViewer.Html.Entity
import DocViewer.Text.Blank
import DocViewer.Text.Letters

/-!
# The title of a page

The first title element runs from the first `<title>` to the next `</title>`. Its text has its white space collapsed
and then its entities read; a title without text is none.
-/

namespace DocViewer.Html

/-- The text of the first title element, as it is written. -/
def rawTitle? (page : Text) : Option Text := do
  let (_, rest) ← splitFirst? (dropFold? "<title>".toList) page
  let (raw, _) ← splitFirst? (dropFold? "</title>".toList) rest
  return raw

/-- The title of a page. -/
def title? (page : Text) : Option Text :=
  (rawTitle? page).bind fun raw =>
    let text := collapse raw
    if text.isEmpty then none else some (Entity.decode text)

end DocViewer.Html
