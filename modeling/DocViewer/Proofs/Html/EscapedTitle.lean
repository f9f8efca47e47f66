import DocViewer.Html.Title
import DocViewer.Proofs.Html.Escaping
import DocViewer.Proofs.Text.Blank
import DocViewer.Proofs.Text.Spelling

/-!
# Titles that were escaped

- Every entity of escaped text is read as the character that it was written for (`decode_escape`), whatever the text
  looked like before.
- Escaping keeps the white space, so it makes no difference whether a text is collapsed first or escaped first
  (`collapse_escape`).
- The first title element of a page is found behind any text without a `<title>` (`rawTitle?_element`).

So the title of a page is the text that was escaped for it, collapsed (`title?_escape`).
-/

namespace DocViewer.Html

/-! ## Entities -/

/-- An entity is read as the character that it was written for. -/
theorem decodeFrom_entity {written : Text} {c : Char} (h : (written, c) ∈ entities) (text t : Text) :
    Entity.decodeFrom text none (written ++ t) = Entity.decodeFrom (c :: text) none t := by
  simp only [entities, List.mem_cons, Prod.mk.injEq, List.not_mem_nil, or_false] at h
  obtain ⟨rfl, rfl⟩ | ⟨rfl, rfl⟩ | ⟨rfl, rfl⟩ := h <;> rfl

theorem decodeFrom_escape (text t : Text) : Entity.decodeFrom text none (escape t) = text.reverse ++ t := by
  induction t generalizing text with
  | nil => exact (List.append_nil _).symm
  | cons c t ih =>
    have hnext : Entity.decodeFrom text none (escapeChar c ++ escape t) =
        Entity.decodeFrom (c :: text) none (escape t) := by
      obtain h | ⟨h, hamp, -, -⟩ := escapeChar_cases c
      · exact decodeFrom_entity h text (escape t)
      · rw [h, List.singleton_append, Entity.decodeFrom, if_neg hamp]
    rw [escape, List.flatMap_cons, ← escape, hnext, ih, List.reverse_cons, List.append_assoc, List.singleton_append]

/-- Reading the entities of escaped text gives the text. -/
theorem decode_escape (t : Text) : Entity.decode (escape t) = t := decodeFrom_escape [] t

/-! ## White space -/

theorem escape_append (t t' : Text) : escape (t ++ t') = escape t ++ escape t' := List.flatMap_append

theorem escape_cons (c : Char) (t : Text) : escape (c :: t) = escapeChar c ++ escape t := List.flatMap_cons

/-- White space is written as it is, and nothing else as white space. -/
theorem isBlank_escapeChar (c : Char) :
    escapeChar c = [c] ∨ isBlank c = false ∧ ∀ d ∈ escapeChar c, isBlank d = false := by
  obtain h | ⟨h, -⟩ := escapeChar_cases c
  · have hall : entities.all (fun e => !isBlank e.2 && e.1.all (!isBlank ·)) = true := by decide
    have hentity := List.all_eq_true.mp hall _ h
    simp only [Bool.and_eq_true, Bool.not_eq_true', List.all_eq_true] at hentity
    exact .inr hentity
  · exact .inl h

theorem splitOnP_append {w : Text} (h : ∀ c ∈ w, isBlank c = false) (t : Text) :
    (w ++ t).splitOnP isBlank = (t.splitOnP isBlank).modifyHead (w ++ ·) := by
  obtain ⟨next, others, hpieces⟩ := List.exists_cons_of_ne_nil (List.splitOnP_ne_nil isBlank t)
  induction w with
  | nil => rw [List.nil_append, hpieces]; rfl
  | cons c w ih =>
    obtain ⟨hc, hw⟩ := List.forall_mem_cons.mp h
    rw [List.cons_append, List.splitOnP_cons_eq_if_modifyHead, hc, ih hw, hpieces]
    rfl

/-- Escaping does not change where white space parts a text. -/
theorem splitOnP_escape (t : Text) : (escape t).splitOnP isBlank = (t.splitOnP isBlank).map escape := by
  induction t with
  | nil => rfl
  | cons c t ih =>
    obtain ⟨next, others, hpieces⟩ := List.exists_cons_of_ne_nil (List.splitOnP_ne_nil isBlank t)
    rw [escape_cons, List.splitOnP_cons_eq_if_modifyHead]
    obtain h | ⟨hc, hwritten⟩ := isBlank_escapeChar c
    · rw [h, List.singleton_append, List.splitOnP_cons_eq_if_modifyHead, ih]
      split
      · rfl
      · rw [hpieces, List.map_cons, List.modifyHead_cons, List.modifyHead_cons, List.map_cons, escape_cons, h]
        rfl
    · rw [splitOnP_append hwritten, ih, hc, hpieces]
      rfl

theorem isEmpty_escape (t : Text) : (escape t).isEmpty = t.isEmpty := by
  cases t with
  | nil => rfl
  | cons c t =>
    obtain ⟨d, w, h⟩ : ∃ d w, escapeChar c = d :: w := by
      unfold escapeChar
      split_ifs <;> exact ⟨_, _, rfl⟩
    rw [escape_cons, h]
    rfl

theorem words_escape (t : Text) : words (escape t) = (words t).map escape := by
  rw [words_eq, words_eq, splitOnP_escape, List.filter_map]
  congr 2
  funext word
  exact congrArg (!·) (isEmpty_escape word)

theorem escape_intercalate (ws : List Text) : escape ([' '].intercalate ws) = [' '].intercalate (ws.map escape) := by
  induction ws with
  | nil => rfl
  | cons first ws ih =>
    cases ws with
    | nil => rw [List.map_singleton, List.intercalate_singleton, List.intercalate_singleton]
    | cons second ws =>
      have hspace : escape [' '] = [' '] := rfl
      rw [List.map_cons, List.map_cons, List.intercalate_cons_cons, List.intercalate_cons_cons, escape_append,
        escape_append, hspace, ih, List.map_cons]

/-- It makes no difference whether a text is collapsed first or escaped first. -/
theorem collapse_escape (t : Text) : collapse (escape t) = escape (collapse t) := by
  rw [collapse, words_escape, ← escape_intercalate, collapse]

/-! ## The first title element -/

/-- A title element is the first one if no `<title>` comes before it, and its text goes up to the next `</title>`. -/
theorem rawTitle?_element {before opening raw closing : Text} (hbefore : Free (spellings "<title>".toList) before)
    (hopening : opening ∈ spellings "<title>".toList) (hraw : '<' ∉ raw)
    (hclosing : closing ∈ spellings "</title>".toList) (after : Text) :
    rawTitle? (before ++ (opening ++ (raw ++ (closing ++ after)))) = some raw := by
  have hopen : splitFirst? (dropFold? "<title>".toList) (before ++ (opening ++ (raw ++ (closing ++ after)))) =
      some (before, raw ++ (closing ++ after)) :=
    (splitFirst?_spelling (by decide) (by decide)).mpr ⟨opening, hopening, rfl, hbefore⟩
  have hstarts : Starts '<' (dropFold? "</title>".toList) := (heads_dropFold? _).starts rfl rfl
  have hclose := splitFirst?_of_clear (hstarts.clear hraw (closing ++ after))
    ((drops_dropFold? _ _ _).mpr ⟨closing, hclosing, rfl⟩)
  rw [rawTitle?, hopen]
  show (splitFirst? (dropFold? "</title>".toList) (raw ++ (closing ++ after))).bind _ = _
  rw [hclose]
  rfl

/-- The title of a page whose first title element was escaped. -/
theorem title?_of_rawTitle? {page t : Text} (h : rawTitle? page = some (escape t)) :
    title? page = if t.all isBlank then none else some (collapse t) := by
  rw [title?, h, Option.bind_some, collapse_escape]
  simp only [isEmpty_escape, decode_escape, List.isEmpty_iff, collapse_eq_nil]

/-- **Titles that were escaped are read back.** The title of a page is that of its first title element, whatever
follows; if its text was escaped, the title has the words of that text, joined by single spaces, and there is none if
the text is all white space. -/
theorem title?_escape {before opening closing : Text} (hbefore : Free (spellings "<title>".toList) before)
    (hopening : opening ∈ spellings "<title>".toList) (hclosing : closing ∈ spellings "</title>".toList)
    (t after : Text) :
    title? (before ++ (opening ++ (escape t ++ (closing ++ after)))) =
      if t.all isBlank then none
      else some ([' '].intercalate ((t.splitOnP isBlank).filter (!·.isEmpty))) := by
  have hraw := rawTitle?_element hbefore hopening (escaped_escape t).no_open hclosing after
  rw [title?_of_rawTitle? hraw, collapse, words_eq]

/-- A text with entities and a tag in it, on two lines, in front of another title. -/
theorem title?_escape_entities :
    Free (spellings "<title>".toList) "<html><HEAD>".toList ∧
    "<TITLE>".toList ∈ spellings "<title>".toList ∧ "</Title>".toList ∈ spellings "</title>".toList ∧
    title? ("<html><HEAD>".toList ++ ("<TITLE>".toList ++ (escape " &amp;\n <title>\t; &#10;".toList ++
      ("</Title>".toList ++ "<title>b</title>".toList)))) = some "&amp; <title> ; &#10;".toList := by
  have hbefore : Free (spellings "<title>".toList) "<html><HEAD>".toList := (free_spellings (by decide)).mpr (by decide)
  have hopening : "<TITLE>".toList ∈ spellings "<title>".toList := by decide
  have hclosing : "</Title>".toList ∈ spellings "</title>".toList := by decide
  have htitle := title?_escape hbefore hopening hclosing " &amp;\n <title>\t; &#10;".toList "<title>b</title>".toList
  exact ⟨hbefore, hopening, hclosing, htitle.trans (by decide)⟩

end DocViewer.Html
