import DocViewer.Link.Target
import DocViewer.Man
import DocViewer.Proofs.Text.Literals
import Mathlib.Data.List.TakeDrop
import Mathlib.Data.List.TakeWhile

/-!
# References to manual pages

`Target.IsManUrl` says how the URL of a manual page is written, whoever reads it.

- `ofManUrl_eq_man`: reading a URL finds the page and the sections that it is written with, and no others; so a URL is
  written in one way only (`IsManUrl.unique`).
- `man_url_grammar` says this of searches and of links, and that the references which the formatter writes are read
  back.
-/

namespace DocViewer.Target

/-- How the URL of a manual page is written: `man:page(sections)`, where neither part is empty or holds a newline, and
the sections hold no `(` but at their end. -/
structure IsManUrl (url page sections : Text) : Prop where
  written : url = manScheme ++ (page ++ '(' :: (sections ++ [')']))
  page_ne : page ≠ []
  sections_ne : sections ≠ []
  page_line : '\n' ∉ page
  sections_line : '\n' ∉ sections
  innermost : '(' ∉ sections.dropLast

/-- The template with each `%s` replaced by the next of the texts. -/
def fill : (template : Text) → (texts : List Text) → Text
  | '%' :: 's' :: template, text :: texts => text ++ fill template texts
  | c :: template, texts => c :: fill template texts
  | [], _ => []

/-! ## The parts of a reference -/

/-- A stretch without `(` ends at the next `(`. -/
theorem span_open {front : Text} (h : '(' ∉ front) (rest : Text) :
    (front ++ '(' :: rest).span (· ≠ '(') = (front, '(' :: rest) := by
  have hall : ∀ c ∈ front, decide (c ≠ '(') = true := fun c hc => decide_eq_true fun he => h (he ▸ hc)
  rw [List.span_eq_takeWhile_dropWhile, List.takeWhile_append_of_pos hall, List.dropWhile_append_of_pos hall]
  simp

/-- What stands in front of the next `(` holds none. -/
theorem span_eq_open {text front rest : Text} (h : text.span (· ≠ '(') = (front, '(' :: rest)) :
    text = front ++ '(' :: rest ∧ '(' ∉ front := by
  rw [List.span_eq_takeWhile_dropWhile, Prod.mk.injEq] at h
  obtain ⟨hfront, hrest⟩ := h
  refine ⟨by rw [← hrest, ← hfront, List.takeWhile_append_dropWhile], fun hmem => ?_⟩
  rw [← hfront] at hmem
  simpa using List.mem_takeWhile_imp hmem

/-- A reference is split into the parts that it is written with. -/
theorem splitReference?_written {url page sections : Text} (h : IsManUrl url page sections) :
    splitReference? (page ++ '(' :: (sections ++ [')'])) = some (page, sections) := by
  obtain ⟨c, rest, hpage⟩ := List.exists_cons_of_ne_nil (mt List.reverse_eq_nil_iff.mp h.page_ne)
  have hlast := List.dropLast_concat_getLast h.sections_ne
  generalize sections.getLast h.sections_ne = last at hlast
  have hline : (page ++ '(' :: (sections ++ [')'])).contains '\n' = false := by
    simp [h.page_line, h.sections_line]
  have hrev : (page ++ '(' :: (sections ++ [')'])).reverse =
      ')' :: last :: (sections.dropLast.reverse ++ '(' :: c :: rest) := by
    rw [← hpage]
    conv_lhs => rw [← hlast]
    simp
  have hspan := span_open (mt List.mem_reverse.mp h.innermost) (c :: rest)
  rw [splitReference?, hline, hrev]
  simp only [hspan, Bool.false_eq_true, if_false]
  rw [← hpage, List.reverse_reverse, List.reverse_cons, List.reverse_reverse, hlast]

/-- What a reference is split into is what it is written with. -/
theorem splitReference?_sound {reference page sections : Text}
    (h : splitReference? reference = some (page, sections)) :
    IsManUrl (manScheme ++ reference) page sections := by
  unfold splitReference? at h
  split at h
  · cases h
  rename_i hline
  split at h
  · rename_i last rest hrev
    split at h
    · rename_i front c before hspan
      cases h
      obtain ⟨rfl, hinner⟩ := span_eq_open hspan
      have hwritten : reference = (c :: before).reverse ++ '(' :: ((last :: front).reverse ++ [')']) := by
        rw [← List.reverse_reverse reference, hrev]
        simp
      have hline' : '\n' ∉ reference := by simpa using hline
      rw [hwritten] at hline' ⊢
      simp only [List.mem_append, List.mem_cons, not_or] at hline'
      exact ⟨rfl, by simp, by simp, hline'.1, hline'.2.2.1, by simpa using hinner⟩
    · cases h
  · cases h

/-- Reading a URL finds the parts that it is written with, and no others. -/
theorem ofManUrl_eq_man {url page sections : Text} :
    ofManUrl url = .man page sections ↔ IsManUrl url page sections := by
  constructor
  · intro h
    unfold ofManUrl at h
    split at h
    · rename_i hsplit
      cases h
      obtain ⟨reference, hscheme, hsplit⟩ := Option.bind_eq_some_iff.mp hsplit
      rw [dropPrefix?_eq_some.mp hscheme]
      exact splitReference?_sound hsplit
    · cases h
  · intro h
    have hscheme := dropPrefix?_eq_some.mpr h.written
    rw [ofManUrl, hscheme, Option.bind_some, splitReference?_written h]

/-- A URL that is not written in this way is malformed. -/
theorem ofManUrl_eq_malformed {url : Text} (h : ∀ page sections, ¬IsManUrl url page sections) :
    ofManUrl url = .malformed url := by
  cases hread : (dropPrefix? manScheme url).bind splitReference? with
  | none => rw [ofManUrl, hread]
  | some parts =>
    have hman : ofManUrl url = .man parts.1 parts.2 := by rw [ofManUrl, hread]
    exact absurd (ofManUrl_eq_man.mp hman) (h _ _)

/-- A URL is written in one way only. -/
theorem IsManUrl.unique {url page sections page' sections' : Text} (h : IsManUrl url page sections)
    (h' : IsManUrl url page' sections') : page = page' ∧ sections = sections' := by
  have hsame := (ofManUrl_eq_man.mpr h).symm.trans (ofManUrl_eq_man.mpr h')
  exact Target.man.inj hsame

/-! ## Searches and links -/

theorem ofSearch_manUrl {text : Text} (h : manScheme <+: trim text) (sections : Text) :
    ofSearch text sections = ofManUrl (trim text) := by
  rw [ofSearch, if_pos (isSome_dropPrefix?.mpr h)]

theorem ofLink_manUrl {link : Text} (h : manScheme <+: link) (current : Navigation) :
    ofLink link current = ofManUrl link := by
  rw [ofLink, if_pos (isSome_dropPrefix?.mpr h)]

/-- The reference that the formatter writes is a URL of the page, unless a part of it cannot stand in one. -/
theorem isManUrl_fill {page sections : Text} (hpage : page ≠ []) (hline : '\n' ∉ page) (hsections : sections ≠ [])
    (hline' : '\n' ∉ sections) (hopen : '(' ∉ sections) :
    IsManUrl (fill referenceTemplate [page, sections]) page sections :=
  ⟨rfl, hpage, hsections, hline, hline', fun h => hopen (List.dropLast_subset _ h)⟩

/-- **The URLs of manual pages.** A search that starts with `man:`, and a link that does, is read as a page in sections
if it is written with that page and these sections, and in no other case; there is at most one way to write it so, and
if there is none it is malformed. The references that the formatter writes are read back. -/
theorem man_url_grammar :
    (∀ text sections, manScheme <+: trim text →
      (∀ page sections', ofSearch text sections = .man page sections' ↔ IsManUrl (trim text) page sections') ∧
      ((∀ page sections', ¬IsManUrl (trim text) page sections') → ofSearch text sections = .malformed (trim text))) ∧
    (∀ link current, manScheme <+: link →
      (∀ page sections, ofLink link current = .man page sections ↔ IsManUrl link page sections) ∧
      ((∀ page sections, ¬IsManUrl link page sections) → ofLink link current = .malformed link)) ∧
    (∀ url page sections page' sections', IsManUrl url page sections → IsManUrl url page' sections' →
      page = page' ∧ sections = sections') ∧
    ∀ page sections current, page ≠ [] → '\n' ∉ page → sections ≠ [] → '\n' ∉ sections → '(' ∉ sections →
      ofLink (fill referenceTemplate [page, sections]) current = .man page sections := by
  refine ⟨?_, ?_, fun _ _ _ _ _ => IsManUrl.unique, ?_⟩
  · intro text sections h
    rw [ofSearch_manUrl h]
    exact ⟨fun _ _ => ofManUrl_eq_man, ofManUrl_eq_malformed⟩
  · intro link current h
    rw [ofLink_manUrl h]
    exact ⟨fun _ _ => ofManUrl_eq_man, ofManUrl_eq_malformed⟩
  · intro page sections current hpage hline hsections hline' hopen
    have hurl := isManUrl_fill hpage hline hsections hline' hopen
    rw [ofLink_manUrl ⟨_, hurl.written.symm⟩]
    exact ofManUrl_eq_man.mpr hurl

/-- The last parentheses of `man:a(b()` would be empty, so its section is `b(`; those of `man:x()` are empty, and it is
malformed; the name of a page may hold colons and parentheses. -/
theorem man_url_grammar_backtracks :
    (manScheme <+: trim " man:a(b() ".toList ∧
      ofSearch " man:a(b() ".toList "2:3".toList = .man "a".toList "b(".toList) ∧
    (manScheme <+: "man:x()".toList ∧ ofLink "man:x()".toList .new = .malformed "man:x()".toList) ∧
    ofLink (fill referenceTemplate ["std::f(x)".toList, "3".toList]) .new =
      .man "std::f(x)".toList "3".toList := by
  obtain ⟨hsearch, hlink, -, hread⟩ := man_url_grammar
  have hfront : manScheme <+: trim " man:a(b() ".toList := by decide
  have hurl : IsManUrl (trim " man:a(b() ".toList) "a".toList "b(".toList :=
    ⟨by decide, by decide, by decide, by decide, by decide, by decide⟩
  have hno : ∀ page sections, ¬IsManUrl "man:x()".toList page sections := fun page sections h =>
    absurd ((ofManUrl_eq_man.mpr h).symm.trans (by decide : _ = Target.malformed "man:x()".toList)) (by simp)
  exact ⟨⟨hfront, ((hsearch _ _ hfront).1 _ _).mpr hurl⟩, ⟨by decide, (hlink _ _ (by decide)).2 hno⟩,
    hread _ _ _ (by decide) (by decide) (by decide) (by decide) (by decide)⟩

end DocViewer.Target
