import DocViewer.Text.Digit
import DocViewer.Text.Letters

/-!
# Pages without their table of contents

A formatted manual page ends with a table of contents, and its section headings and its first line link there. `tidy`
takes out the table (`dropContents`), then unwraps the headings (`unwrapAnchors`), then takes out the link of the first
line (`dropTopLinks`). Tags are met in any case and attributes in either kind of quotes.
-/

namespace DocViewer.Html

/-- What follows a quote, single or double. -/
def dropQuote? : Text → Option Text
  | '\'' :: t => some t
  | '"' :: t => some t
  | _ => none

theorem length_of_dropQuote? {t rest : Text} (h : dropQuote? t = some rest) : rest.length + 1 = t.length := by
  unfold dropQuote? at h
  split at h <;> simp_all

/-- The page without the stretch from the first `<hr><p>` to the last `</ul>` after it. -/
def dropContents (page : Text) : Text :=
  match splitFirst? (dropFold? "<hr><p>".toList) page with
  | none => page
  | some (before, rest) =>
    match splitLast? (dropFold? "</ul>".toList) rest with
    | none => page
    | some (_, after) => before ++ after

/-- What follows a section tag `<a name='sect1' href='#toc1'>`, with any numbers. -/
def dropSectionTag? (t : Text) : Option Text := do
  let t ← dropFold? "<a name=".toList t
  let t ← dropQuote? t
  let t ← dropFold? "sect".toList t
  let t ← dropDecimals? t
  let t ← dropQuote? t
  let t ← dropFold? " href=".toList t
  let t ← dropQuote? t
  let t ← dropFold? "#toc".toList t
  let t ← dropDecimals? t
  let t ← dropQuote? t
  dropFold? ">".toList t

theorem length_of_dropSectionTag? {t rest : Text} (h : dropSectionTag? t = some rest) : rest.length < t.length := by
  simp only [dropSectionTag?, Option.bind_eq_bind, Option.bind_eq_some_iff] at h
  obtain ⟨t₁, h₁, t₂, h₂, t₃, h₃, t₄, h₄, t₅, h₅, t₆, h₆, t₇, h₇, t₈, h₈, t₉, h₉, t₁₀, h₁₀, h₁₁⟩ := h
  have := length_of_dropFold? h₁
  have := length_of_dropQuote? h₂
  have := length_of_dropFold? h₃
  have := length_of_dropDecimals? h₄
  have := length_of_dropQuote? h₅
  have := length_of_dropFold? h₆
  have := length_of_dropQuote? h₇
  have := length_of_dropFold? h₈
  have := length_of_dropDecimals? h₉
  have := length_of_dropQuote? h₁₀
  have := length_of_dropFold? h₁₁
  omega

/-- The end of a label. -/
def dropLabelEnd? (t : Text) : Option Text := dropFold? "</a>".toList t

/-- `unwrapAnchors` with the text written so far, the last character first. A section tag whose label has no end is the
last one to look at, because a label after it has none either. -/
def unwrapFrom (out page : Text) : Text :=
  match _tag : splitFirst? dropSectionTag? page with
  | none => out.reverse ++ page
  | some (before, rest) =>
    match _label : splitFirst? dropLabelEnd? rest with
    | none => out.reverse ++ page
    | some (label, after) => unwrapFrom (label.reverse ++ (before.reverse ++ out)) after
termination_by page.length
decreasing_by
  have := length_of_splitFirst? _tag length_of_dropSectionTag?
  have := length_of_splitFirst? _label fun h => by have := length_of_dropFold? h; simp at this; omega
  omega

/-- The page with each section tag, its label and its `</a>` replaced by the label. A label ends at the next `</a>`. -/
def unwrapAnchors (page : Text) : Text := unwrapFrom [] page

/-- What follows a link to the table of contents. -/
def dropTopLink? (t : Text) : Option Text := do
  let t ← dropFold? "<a href=".toList t
  let t ← dropQuote? t
  let t ← dropFold? "#toc".toList t
  let t ← dropQuote? t
  dropFold? ">table of contents</a><p>".toList t

/-- A link to the table of contents, which nothing replaces. -/
def topLink? (t : Text) : Option (Text × Text) := (dropTopLink? t).map ([], ·)

theorem topLink?_shrinks : Shrinks topLink? := by
  intro t new rest h
  obtain ⟨rest', h', e⟩ := Option.map_eq_some_iff.mp h
  obtain ⟨_, rfl⟩ := Prod.mk.inj e
  simp only [dropTopLink?, Option.bind_eq_bind, Option.bind_eq_some_iff] at h'
  obtain ⟨t₁, h₁, t₂, h₂, t₃, h₃, t₄, h₄, h₅⟩ := h'
  have := length_of_dropFold? h₁
  have := length_of_dropQuote? h₂
  have := length_of_dropFold? h₃
  have := length_of_dropQuote? h₄
  have := length_of_dropFold? h₅
  omega

def dropTopLinks (page : Text) : Text := replaceAll topLink? topLink?_shrinks page

/-- The page without its table of contents and the links that lead there. -/
def tidy (page : Text) : Text := dropTopLinks (unwrapAnchors (dropContents page))

end DocViewer.Html
