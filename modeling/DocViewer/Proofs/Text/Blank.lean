import DocViewer.Text.Blank

/-!
# White space at the ends of a text and between its words

A text whose first and last characters are no white space is trimmed already (`trim_eq_self`). The printing characters
of ASCII are no white space (`isBlank_of_graphic`).

The words of a text are the pieces between white space that are not empty (`words_eq`). Together they hold every
character that is no white space, in order (`flatten_words`), so the text collapses to nothing exactly if it has none
(`collapse_eq_nil`).
-/

namespace DocViewer

/-- The characters of ASCII from `!` to `~` are no white space. -/
theorem isBlank_of_graphic {c : Char} (hlow : '!'.toNat ≤ c.toNat) (hhigh : c.toNat ≤ '~'.toNat) :
    isBlank c = false := by
  have hne : ∀ d : Char, d.toNat < '!'.toNat ∨ '~'.toNat < d.toNat → decide (c = d) = false := by
    rintro d hd
    refine decide_eq_false fun h => ?_
    subst h
    omega
  have hle : ∀ d : Char, d.toNat < '!'.toNat → decide (c ≤ d) = false := fun d hd =>
    decide_eq_false fun h => absurd (show c.toNat ≤ d.toNat from h) (by omega)
  have hge : ∀ d : Char, '~'.toNat < d.toNat → decide (d ≤ c) = false := fun d hd =>
    decide_eq_false fun h => absurd (show d.toNat ≤ c.toNat from h) (by omega)
  simp [isBlank, hne, hle, hge]

theorem trimStart_of_front {t : Text} (h : ∀ c ∈ t.head?, isBlank c = false) : trimStart t = t := by
  cases t with
  | nil => rfl
  | cons c t => rw [trimStart, List.dropWhile_cons, h c rfl]; rfl

/-- A text with no white space at its ends is trimmed. -/
theorem trim_eq_self {t : Text} (hfront : ∀ c ∈ t.head?, isBlank c = false)
    (hback : ∀ c ∈ t.getLast?, isBlank c = false) : trim t = t := by
  have hrev : trimStart t.reverse = t.reverse := trimStart_of_front (by rwa [List.head?_reverse])
  rw [trim, trimStart_of_front hfront, trimEnd, ← trimStart, hrev, List.reverse_reverse]

/-- White space at the end of a text is trimmed away. -/
theorem trim_append_blank {c : Char} (h : isBlank c = true) (t : Text) : trim (t ++ [c]) = trim t := by
  unfold trim trimStart
  rw [List.dropWhile_append]
  split
  · rename_i hempty
    rw [List.isEmpty_iff] at hempty
    rw [hempty, List.dropWhile_cons_of_pos h, List.dropWhile_nil]
  · unfold trimEnd
    rw [List.reverse_append, List.reverse_singleton, List.singleton_append, List.dropWhile_cons_of_pos h]

/-! ## Words -/

theorem wordsFrom_eq (found : List Text) (word t : Text) :
    wordsFrom found word t =
      found.reverse ++ ((t.splitOnP isBlank).modifyHead (word.reverse ++ ·)).filter (!·.isEmpty) := by
  induction t generalizing found word with
  | nil =>
    rw [wordsFrom, List.splitOnP_nil, List.modifyHead_cons, List.append_nil]
    cases word <;> simp
  | cons c t ih =>
    rw [wordsFrom, List.splitOnP_cons_eq_if_modifyHead]
    obtain ⟨next, others, hpieces⟩ := List.exists_cons_of_ne_nil (List.splitOnP_ne_nil isBlank t)
    split
    · rw [ih, hpieces]
      cases word <;> simp
    · rw [ih, hpieces]
      simp

/-- The words are the pieces between white space that are not empty. -/
theorem words_eq (t : Text) : words t = (t.splitOnP isBlank).filter (!·.isEmpty) := by
  obtain ⟨next, others, hpieces⟩ := List.exists_cons_of_ne_nil (List.splitOnP_ne_nil isBlank t)
  rw [words, wordsFrom_eq, hpieces]
  rfl

theorem ne_nil_of_mem_words {t word : Text} (h : word ∈ words t) : word ≠ [] := by
  rw [words_eq, List.mem_filter] at h
  simpa using h.2

theorem flatten_splitOnP (t : Text) : (t.splitOnP isBlank).flatten = t.filter (!isBlank ·) := by
  induction t with
  | nil => rfl
  | cons c t ih =>
    obtain ⟨next, others, hpieces⟩ := List.exists_cons_of_ne_nil (List.splitOnP_ne_nil isBlank t)
    rw [hpieces, List.flatten_cons] at ih
    rw [List.splitOnP_cons_eq_if_modifyHead, hpieces, List.filter_cons, ← ih]
    cases isBlank c <;> rfl

/-- The words hold the characters that are no white space. -/
theorem flatten_words (t : Text) : (words t).flatten = t.filter (!isBlank ·) := by
  rw [words_eq, List.flatten_filter_not_isEmpty, flatten_splitOnP]

/-- Words that are joined stay in the text. -/
theorem mem_intercalate {word : Text} {ws : List Text} (h : word ∈ ws) (separator : Text) {c : Char} (hc : c ∈ word) :
    c ∈ separator.intercalate ws := by
  induction ws with
  | nil => cases h
  | cons first ws ih =>
    cases ws with
    | nil =>
      rw [List.mem_singleton.mp h] at hc
      rwa [List.intercalate_singleton]
    | cons second ws =>
      rw [List.intercalate_cons_cons]
      obtain rfl | h := List.mem_cons.mp h
      · exact List.mem_append_left _ (List.mem_append_left _ hc)
      · exact List.mem_append_right _ (ih h)

/-- Only white space collapses to nothing. -/
theorem collapse_eq_nil {t : Text} : collapse t = [] ↔ t.all isBlank = true := by
  rw [List.all_eq_true]
  constructor
  · intro hnil c hc
    refine Decidable.byContradiction fun hblank => ?_
    have hkept : c ∈ (words t).flatten := by
      rw [flatten_words]
      exact List.mem_filter.mpr ⟨hc, by simpa using hblank⟩
    obtain ⟨word, hword, hcword⟩ := List.mem_flatten.mp hkept
    have hmem : c ∈ collapse t := mem_intercalate hword [' '] hcword
    rw [hnil] at hmem
    cases hmem
  · intro hblank
    have hnone : (words t).flatten = [] := by
      rw [flatten_words, List.filter_eq_nil_iff]
      intro c hc
      simpa using hblank c hc
    have hwords : words t = [] := by
      refine List.eq_nil_iff_forall_not_mem.mpr fun word hword => ?_
      exact ne_nil_of_mem_words hword (List.flatten_eq_nil_iff.mp hnone word hword)
    rw [collapse, hwords, List.intercalate_nil]

end DocViewer
