import DocViewer.Proofs.Html.Retagging
import DocViewer.Stl.Page

/-!
# The title of a page of the library

Making a page of the library ready for display changes tags: a base tag is put in (`insertBase_retagged`), and the tags
of cells with code are replaced (`preformatCells_retagged`). Neither is a tag of a title, so the page keeps its title
(`title?_displayPage`), wherever the `<head>`, the cells and the title stand.
-/

namespace DocViewer.Stl

open Html

/-! ## The base tag -/

theorem otherTags_baseTag {base : Text} (h : '<' ∉ base) : OtherTags (baseTag base) := by
  have hopen : "<base href=\"".toList ∈ spellings "<base href=\"".toList := by decide
  have hclose : '<' ∉ "\">".toList := by decide
  have hfront : OtherTags "<base href=\"".toList := .of_spelling rfl (by decide) hopen
  exact (hfront.append_text h).append_text hclose

/-- The base tag is put in behind a tag, or in front of the page. -/
theorem insertBase_retagged {base : Text} (h : '<' ∉ base) (page : Text) :
    Retagged page (insertBase base page) ∨ insertBase base page = baseTag base ++ page := by
  unfold insertBase
  split
  · rename_i before head after hfound
    obtain ⟨found, rfl, hhere⟩ := splitFirst?_eq_some hfound
    obtain ⟨rest, hdrop, heq⟩ := Option.map_eq_some_iff.mp hhere
    obtain ⟨literal, rfl, hliteral⟩ := dropFold?_eq_some.mp hdrop
    have hlength : literal.length = 6 := by rw [← List.length_map (f := fold), hliteral]; rfl
    rw [List.take_left' hlength] at heq
    cases heq
    have hhead : OtherTags head := .of_spelling (q := "<head>".toList) rfl (by decide) hliteral
    simp only [List.append_assoc]
    rw [← List.append_assoc head]
    exact .inl ((Retagged.tags hhead (hhead.append (otherTags_baseTag h)) (.refl after)).append_left before)
  · exact .inr rfl

theorem rawTitle?_insertBase {base page : Text} (hbase : '<' ∉ base)
    (hraw : ∀ raw, FirstTitle page raw → '<' ∉ raw) : rawTitle? (insertBase base page) = rawTitle? page := by
  obtain h | h := insertBase_retagged hbase page
  · exact h.rawTitle?_eq hraw
  · rw [h, (otherTags_baseTag hbase).rawTitle?_append]

/-! ## Cells with code -/

/-- A cell with code: its tags are replaced, and the code stays as it is. -/
theorem teletypeCell?_eq_some {t new rest : Text} (h : teletypeCell? t = some (new, rest)) :
    ∃ opening code closing, t = '\n' :: (opening ++ (code ++ (closing ++ rest))) ∧
      opening ∈ spellings "<tt>".toList ∧ closing ∈ spellings "</tt>\n</td>".toList ∧
      new = '\n' :: ("<pre>".toList ++ (code ++ "</pre></td>\n".toList)) := by
  simp only [teletypeCell?, teletypeLine?, Option.bind_eq_bind, Option.pure_def, Option.bind_eq_some_iff,
    Option.some.injEq, Prod.mk.injEq] at h
  obtain ⟨below, hbelow, ⟨code, _⟩, ⟨line, hline, _, hcode, rfl, rfl⟩, rest, hrest, rfl, rfl⟩ := h
  obtain ⟨opening, hopening, hspelled⟩ := dropFold?_eq_some.mp hline
  obtain ⟨closing, rfl, hclosing⟩ := dropSuffixFold?_eq_some.mp hcode
  obtain ⟨ending, hending, hspelled'⟩ := dropFold?_eq_some.mp hrest
  have hbehind : below.dropWhile (· ≠ '\n') = ending ++ rest := hending
  have hlines := List.takeWhile_append_dropWhile (p := (· ≠ '\n')) (l := below)
  rw [hopening, hbehind] at hlines
  refine ⟨opening, code, closing ++ ending, ?_, hspelled, ?_, ?_⟩
  · rw [dropPrefix?_eq_some.mp hbelow, ← hlines]
    simp
  · exact (List.map_append ..).trans (congrArg₂ (· ++ ·) hclosing hspelled')
  · simp

theorem preformatCells_retagged (page : Text) : Retagged page (preformatCells page) := by
  unfold preformatCells
  induction hlength : page.length using Nat.strongRecOn generalizing page with
  | ind n ih =>
    subst hlength
    cases page with
    | nil =>
      rw [replaceAll_nil]
      exact .nil
    | cons c t =>
      rw [replaceAll_cons]
      cases hcell : teletypeCell? (c :: t) with
      | none => exact .char c (ih _ (Nat.lt_succ_self _) t rfl)
      | some found =>
        obtain ⟨new, rest⟩ := found
        have hrest := ih _ (teletypeCell?_shrinks _ _ _ hcell) rest rfl
        obtain ⟨opening, code, closing, heq, hopening, hclosing, rfl⟩ := teletypeCell?_eq_some hcell
        have hpre : "<pre>".toList ∈ spellings "<pre>".toList := by decide
        have hend : "</pre></td>\n".toList ∈ spellings "</pre></td>\n".toList := by decide
        have hopen := OtherTags.of_spelling (q := "<tt>".toList) rfl (by decide) hopening
        have hopen' := OtherTags.of_spelling (q := "<pre>".toList) rfl (by decide) hpre
        have hclose := OtherTags.of_spelling (q := "</tt>\n</td>".toList) rfl (by decide) hclosing
        have hclose' := OtherTags.of_spelling (q := "</pre></td>\n".toList) rfl (by decide) hend
        have hcode := (Retagged.tags hclose hclose' hrest).append_left code
        rw [heq]
        simpa using (Retagged.tags hopen hopen' hcode).append_left ['\n']

/-! ## The title -/

/-- **A page of the library keeps its title** when it is made ready for display, if its first title element holds no
tag. -/
theorem title?_displayPage {page base : Text} (hraw : ∀ raw, FirstTitle page raw → '<' ∉ raw) (hbase : '<' ∉ base) :
    title? (displayPage page base) = title? page := by
  have hinserted := rawTitle?_insertBase hbase hraw
  have hfirst : ∀ raw, FirstTitle (insertBase base page) raw → '<' ∉ raw := by
    intro raw h
    rw [← rawTitle?_eq_some_iff, hinserted, rawTitle?_eq_some_iff] at h
    exact hraw raw h
  have hdisplayed := (preformatCells_retagged (insertBase base page)).rawTitle?_eq hfirst
  rw [title?, displayPage, hdisplayed, hinserted, title?]

/-- A page with its title in a cell of code, in front of the `<head>`. -/
theorem title?_displayPage_cell :
    (∀ raw, FirstTitle "x\n<TT><Title>a &amp;\tb</TITLE></tt>\n</td><title>c</title><HEAD>".toList raw →
      '<' ∉ raw) ∧ '<' ∉ "file:///d/".toList ∧
    title? (displayPage "x\n<TT><Title>a &amp;\tb</TITLE></tt>\n</td><title>c</title><HEAD>".toList
      "file:///d/".toList) = some "a & b".toList := by
  have hraw : ∀ raw, FirstTitle "x\n<TT><Title>a &amp;\tb</TITLE></tt>\n</td><title>c</title><HEAD>".toList raw →
      '<' ∉ raw := by
    intro raw h
    have hfirst := rawTitle?_eq_some_iff.mpr h
    have hcell : rawTitle? "x\n<TT><Title>a &amp;\tb</TITLE></tt>\n</td><title>c</title><HEAD>".toList =
        some "a &amp;\tb".toList := by decide
    cases hfirst.symm.trans hcell
    decide
  have hbase : '<' ∉ "file:///d/".toList := by decide
  exact ⟨hraw, hbase, (title?_displayPage hraw hbase).trans (by decide)⟩

end DocViewer.Stl
