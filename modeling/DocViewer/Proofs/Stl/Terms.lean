import DocViewer.Proofs.Stl.Entries
import DocViewer.Proofs.Text.Blank
import DocViewer.Stl.Index

/-!
# Terms of the library

Terms are read in two places: from the URLs of searches (`Target.IsTermUrl`) and from the index page (`Stl.IsLabel`).

- A search refers to a term if its text is the URL of that term (`ofSearch_eq_stl`).
- The terms that the index lists are labels (`isLabel_of_mem_names`), and every label is a term (`IsLabel.isTerm`).
- A term is looked up as it is listed (`lookup_isSome`): nothing is taken off its front.
-/

namespace DocViewer

namespace Target

/-- A term is not empty and has only letters, digits and underscores, of ASCII. -/
structure IsTerm (term : Text) : Prop where
  ne_nil : term ≠ []
  chars : ∀ c ∈ term, isTermChar c = true

/-- The URL of a term, with or without `std::` in front of it. -/
structure IsTermUrl (url term : Text) : Prop where
  isTerm : IsTerm term
  written : url = stlScheme ++ term ∨ url = stlScheme ++ (stdPrefix ++ term)

/-! ## Terms -/

/-- The characters of terms have code points from those of the digits to those of the small letters. -/
theorem toNat_of_isTermChar {c : Char} (h : isTermChar c = true) : '0'.toNat ≤ c.toNat ∧ c.toNat ≤ 'z'.toNat := by
  delta isTermChar Char.isAlphanum Char.isAlpha Char.isUpper Char.isLower Char.isDigit at h
  simp only [ge_iff_le, UInt32.le_iff_toNat_le, Bool.or_eq_true, Bool.and_eq_true, decide_eq_true_eq] at h
  have hval : ∀ d : Char, d.val.toNat = d.toNat := fun _ => rfl
  simp only [hval] at h
  have : '0'.toNat = 48 := rfl
  have : '9'.toNat = 57 := rfl
  have : 'A'.toNat = 65 := rfl
  have : 'Z'.toNat = 90 := rfl
  have : 'a'.toNat = 97 := rfl
  have : 'z'.toNat = 122 := rfl
  obtain h | rfl := h
  · omega
  · decide

theorem isBlank_of_isTermChar {c : Char} (h : isTermChar c = true) : isBlank c = false := by
  obtain ⟨hlow, hhigh⟩ := toNat_of_isTermChar h
  exact isBlank_of_graphic (Nat.le_trans (by decide) hlow) (Nat.le_trans hhigh (by decide))

/-- A term with no `std::` in front of it stays as it is. -/
theorem withoutStd_of_isTerm {term : Text} (h : IsTerm term) : withoutStd term = term := by
  have hnone : dropPrefix? stdPrefix term = none := by
    cases hd : dropPrefix? stdPrefix term with
    | none => rfl
    | some rest =>
      have hcolon : ':' ∈ term := by
        rw [dropPrefix?_eq_some.mp hd]
        exact List.mem_append_left _ (by decide)
      exact absurd (h.chars _ hcolon) (by decide)
  rw [withoutStd, hnone, Option.getD_none]

theorem withoutStd_append (term : Text) : withoutStd (stdPrefix ++ term) = term := by
  rw [withoutStd, dropPrefix?_eq_some.mpr rfl, Option.getD_some]

/-- What is left has `std::` in front of it, or nothing was taken off. -/
theorem eq_of_withoutStd (reference : Text) :
    reference = withoutStd reference ∨ reference = stdPrefix ++ withoutStd reference := by
  unfold withoutStd
  cases hd : dropPrefix? stdPrefix reference with
  | none => exact .inl rfl
  | some rest => exact .inr (dropPrefix?_eq_some.mp hd)

theorem term?_eq_some {reference term : Text} :
    term? reference = some term ↔ IsTerm term ∧ (reference = term ∨ reference = stdPrefix ++ term) := by
  simp only [term?, Option.ite_none_right_eq_some, Option.some.injEq, Bool.and_eq_true, Bool.not_eq_true',
    List.isEmpty_eq_false_iff, List.all_eq_true]
  constructor
  · rintro ⟨⟨hne, hchars⟩, rfl⟩
    exact ⟨⟨hne, hchars⟩, eq_of_withoutStd reference⟩
  · rintro ⟨hterm, hreference⟩
    have hleft : withoutStd reference = term := by
      obtain rfl | rfl := hreference
      · exact withoutStd_of_isTerm hterm
      · exact withoutStd_append term
    rw [hleft]
    exact ⟨⟨hterm.ne_nil, hterm.chars⟩, rfl⟩

/-! ## URLs of terms -/

theorem ofStlUrl_eq_stl {url term : Text} : ofStlUrl url = .stl term ↔ IsTermUrl url term := by
  have hread : ofStlUrl url = .stl term ↔ (dropPrefix? stlScheme url).bind term? = some term := by
    unfold ofStlUrl
    split
    · rename_i hread
      rw [hread, Target.stl.injEq, Option.some.injEq]
    · rename_i hread
      simp [hread]
  rw [hread, Option.bind_eq_some_iff]
  constructor
  · rintro ⟨reference, hscheme, hterm⟩
    obtain ⟨hterm, hwritten⟩ := term?_eq_some.mp hterm
    rw [dropPrefix?_eq_some.mp hscheme]
    exact ⟨hterm, hwritten.imp (congrArg _) (congrArg _)⟩
  · rintro ⟨hterm, rfl | rfl⟩
    · exact ⟨_, dropPrefix?_eq_some.mpr rfl, term?_eq_some.mpr ⟨hterm, .inl rfl⟩⟩
    · exact ⟨_, dropPrefix?_eq_some.mpr rfl, term?_eq_some.mpr ⟨hterm, .inr rfl⟩⟩

/-- A URL is read as a term, or it is malformed. -/
theorem ofStlUrl_eq_malformed {url : Text} (h : ∀ term, ¬IsTermUrl url term) : ofStlUrl url = .malformed url := by
  cases hread : (dropPrefix? stlScheme url).bind term? with
  | none => rw [ofStlUrl, hread]
  | some term =>
    have hstl : ofStlUrl url = .stl term := by rw [ofStlUrl, hread]
    exact absurd (ofStlUrl_eq_stl.mp hstl) (h term)

/-- What starts with `stl:` does not start with `man:`. -/
theorem ofSearch_stlUrl {text : Text} (h : stlScheme <+: trim text) (sections : Text) :
    ofSearch text sections = ofStlUrl (trim text) := by
  have hman : dropPrefix? manScheme (trim text) = none := by
    obtain ⟨rest, hrest⟩ := h
    rw [← hrest]
    rfl
  rw [ofSearch, hman, if_neg (by simp), if_pos (isSome_dropPrefix?.mpr h)]

theorem IsTermUrl.scheme {url term : Text} (h : IsTermUrl url term) : stlScheme <+: url := by
  obtain h | h := h.written <;> exact ⟨_, h.symm⟩

/-- A search refers to a term if its text is the URL of that term. -/
theorem ofSearch_eq_stl {text sections term : Text} :
    ofSearch text sections = .stl term ↔ IsTermUrl (trim text) term := by
  constructor
  · intro h
    by_cases hstl : stlScheme <+: trim text
    · rw [ofSearch_stlUrl hstl] at h
      exact ofStlUrl_eq_stl.mp h
    · -- any other text is a manual page or malformed
      simp only [ofSearch] at h
      split at h
      · unfold ofManUrl at h
        split at h <;> cases h
      · rw [if_neg (mt isSome_dropPrefix?.mp hstl)] at h
        cases h
  · intro h
    rw [ofSearch_stlUrl h.scheme]
    exact ofStlUrl_eq_stl.mpr h

/-- The URL of a term has no white space at its ends. -/
theorem IsTermUrl.trim_eq {url term : Text} (h : IsTermUrl url term) : trim url = url := by
  have hlast : ∀ front, ∀ c ∈ (front ++ term).getLast?, isBlank c = false := by
    intro front c hc
    have hne := h.isTerm.ne_nil
    obtain rfl : term.getLast hne = c := by
      simpa [List.getLast?_append, List.getLast?_eq_some_getLast hne] using hc
    exact isBlank_of_isTermChar (h.isTerm.chars _ (List.getLast_mem hne))
  obtain rfl | rfl := h.written
  · refine trim_eq_self ?_ (hlast _)
    rintro c ⟨⟩
    decide
  · refine trim_eq_self ?_ ?_
    · rintro c ⟨⟩
      decide
    · rw [← List.append_assoc]
      exact hlast _

end Target

namespace Stl

open Target

theorem isTermChar_of_isLabelChar {c : Char} (h : isLabelChar c = true) : isTermChar c = true := by
  simp only [isLabelChar, Bool.or_eq_true] at h
  delta isTermChar Char.isAlphanum Char.isAlpha
  simp only [Bool.or_eq_true]
  tauto

/-- Every label is a term. -/
theorem IsLabel.isTerm {term : Text} (h : IsLabel term) : IsTerm term :=
  ⟨h.ne_nil, fun c hc => isTermChar_of_isLabelChar (h.chars c hc)⟩

/-! ## The entries of the index -/

/-- The term of an entry is a label. -/
theorem Entry.isLabel_term {line : Text} {e : Entry} (h : Entry.ofLine? line = some e) : IsLabel e.term := by
  obtain ⟨_, _, hlink, -⟩ := ofLine?_sound h
  obtain ⟨_, hfound, -⟩ := hlink.written
  exact hfound.1

/-- The terms that an entry defines are labels. -/
theorem Entry.isLabel_of_mem_terms {e : Entry} (h : IsLabel e.term) {term : Text} (hterm : term ∈ e.terms) :
    IsLabel term := by
  have haliases : ∀ t ∈ basicStringAliases, t ≠ [] ∧ t.all isLabelChar = true := by decide
  unfold Entry.terms at hterm
  split at hterm
  · obtain hterm | hterm := List.mem_append.mp hterm
    · obtain ⟨hne, hchars⟩ := haliases term hterm
      exact ⟨hne, List.all_eq_true.mp hchars⟩
    · rwa [List.mem_singleton.mp hterm]
  · rwa [List.mem_singleton.mp hterm]

/-! ## The terms of the index -/

/-- Adding a term lists no other new one. -/
theorem TermMap.mem_insert {m : TermMap} {term path t : Text} (h : t ∈ (m.insert term path).map (·.1)) :
    t = term ∨ t ∈ m.map (·.1) := by
  induction m with
  | nil => exact .inl (by simpa [insert] using h)
  | cons entry m ih =>
    simp only [insert] at h
    split at h
    · simpa using h
    · split at h
      · rw [List.map_cons, List.mem_cons] at h
        exact h.imp_right (List.mem_cons_of_mem _)
      · rw [List.map_cons, List.mem_cons] at h
        obtain rfl | h := h
        · exact .inr List.mem_cons_self
        · exact (ih h).imp_right (List.mem_cons_of_mem _)

/-- All the terms of a map are labels. -/
def TermMap.Labelled (m : TermMap) : Prop := ∀ term ∈ m.map (·.1), IsLabel term

theorem TermMap.Labelled.insert {m : TermMap} (h : m.Labelled) {term : Text} (hterm : IsLabel term) (path : Text) :
    (m.insert term path).Labelled := by
  intro t ht
  obtain rfl | ht := TermMap.mem_insert ht
  · exact hterm
  · exact h t ht

/-- What holds of the empty map and is kept when a label is added holds of the terms of an index page. -/
theorem parseIndex_invariant {P : TermMap → Prop} (hnil : P [])
    (hinsert : ∀ {m term}, P m → IsLabel term → ∀ path, P (m.insert term path)) (root page : Text) :
    P (parseIndex root page) := by
  refine List.foldlRecOn _ _ hnil fun m hm e he => ?_
  obtain ⟨line, -, hline⟩ := List.mem_filterMap.mp he
  refine List.foldlRecOn _ _ hm fun m hm term hterm => ?_
  exact hinsert hm (Entry.isLabel_of_mem_terms (Entry.isLabel_term hline) hterm) _

/-- The terms of an index page are labels. -/
theorem labelled_parseIndex (root page : Text) : (parseIndex root page).Labelled :=
  parseIndex_invariant (fun _ h => absurd h List.not_mem_nil) (fun h => h.insert) root page

/-- A term is found if it is one of the map. -/
theorem TermMap.find?_isSome {m : TermMap} {term : Text} : (m.find? term).isSome ↔ term ∈ m.map (·.1) := by
  rw [find?, List.lookup_isSome_iff, List.mem_map]
  simp

namespace Index

/-- The terms that an index lists are labels. -/
theorem isLabel_of_mem_names {root file : Text} {d : Disk} {term : Text} (h : term ∈ (build root file d).names) :
    IsLabel term := by
  unfold build at h
  split at h
  · simp only at h
    split at h
    · exact labelled_parseIndex _ _ term h
    · exact absurd h List.not_mem_nil
  · exact absurd h List.not_mem_nil

/-- An index that was not loaded lists nothing. -/
theorem names_of_not_loaded {root file : Text} {d : Disk} (h : ∀ terms, (build root file d).status ≠ .loaded terms) :
    (build root file d).names = [] := by
  unfold build at h ⊢
  split
  · rename_i hroot
    rw [if_pos hroot] at h
    simp only at h ⊢
    split
    · rename_i hread
      rw [hread] at h
      exact absurd rfl (h _)
    · rfl
  · rfl

/-- A term is looked up as it is listed. -/
theorem lookup_isSome {i : Index} {term : Text} (h : IsTerm term) : (i.lookup term).isSome ↔ term ∈ i.names := by
  rw [lookup, withoutStd_of_isTerm h, TermMap.find?_isSome, names]

end Index

end Stl

end DocViewer
