import DocViewer.Proofs.Text.Searching
import DocViewer.Stl.Entry
import Mathlib.Data.List.TakeDrop
import Mathlib.Data.List.TakeWhile

/-!
# Entries of the index

`Link` says how a link of the index is written, and `Entry.StandsOn` which link of a line is its entry: the one that
starts last, with the longest name that it can have there.

- `Entry.ofLine?_eq_some`: the entry that is read from a line is the one that stands on it.
- `Entry.ofLine?_eq_none`: none is read if no link is written on the line.
-/

namespace DocViewer.Stl

/-- The labels of the index: not empty, and of small letters, digits and underscores. -/
structure IsLabel (term : Text) : Prop where
  ne_nil : term ≠ []
  chars : ∀ c ∈ term, isLabelChar c = true

/-- How a link starts, up to the name of its page. -/
def linkStart : Text := "<A href=\"".toList

/-- What stands between the name of the page and the label. -/
def labelStart : Text := pageSuffix ++ "\">".toList

/-- The end of a label: that of a cell, with the parameters of a template in front of it or without. -/
inductive EndsCell : Text → Prop
  | plain (rest : Text) : EndsCell (cellEnd ++ rest)
  | template (parameters rest : Text) : EndsCell (parametersStart ++ (parameters ++ (parametersEnd ++ rest)))

/-- The term is the label at the front of the text. -/
def Labels (t term : Text) : Prop := IsLabel term ∧ ∃ rest, EndsCell rest ∧ t = labelStart ++ (term ++ rest)

/-- A link on the line, with `before` in front of it: to the page `name.html`, labelled with the term at the end of a
cell. -/
structure Link (line before name term : Text) : Prop where
  written : ∃ found, Labels found term ∧ line = before ++ (linkStart ++ (name ++ found))
  name_ne : name ≠ []

/-- The entry stands on the line: as the link that starts last, with the longest name that a link can have there. -/
def Entry.StandsOn (e : Entry) (line : Text) : Prop :=
  ∃ before name, Link line before name e.term ∧ e.href = name ++ pageSuffix ∧
    ∀ before' name' term', Link line before' name' term' → before' <+: before ∧ (before' = before → name' <+: name)

/-! ## Labels -/

/-- A label ends where it does, whatever follows. -/
theorem IsLabel.takeWhile_append {term rest : Text} (h : IsLabel term) (hrest : rest.takeWhile isLabelChar = []) :
    (term ++ rest).takeWhile isLabelChar = term := by
  rw [List.takeWhile_append_of_pos h.chars, hrest, List.append_nil]

theorem IsLabel.dropWhile_append {term rest : Text} (h : IsLabel term) (hrest : rest.takeWhile isLabelChar = []) :
    (term ++ rest).dropWhile isLabelChar = rest := by
  rw [List.dropWhile_append_of_pos h.chars]
  conv_rhs => rw [← List.takeWhile_append_dropWhile (p := isLabelChar) (l := rest), hrest, List.nil_append]

theorem EndsCell.takeWhile_eq_nil {rest : Text} (h : EndsCell rest) : rest.takeWhile isLabelChar = [] := by
  cases h <;> rfl

/-- A text has no two labels at its front. -/
theorem Labels.unique {t term term' : Text} (h : Labels t term) (h' : Labels t term') : term = term' := by
  obtain ⟨hlabel, rest, hends, rfl⟩ := h
  obtain ⟨hlabel', rest', hends', heq⟩ := h'
  have hsame := congrArg (List.takeWhile isLabelChar) (List.append_cancel_left heq)
  rwa [hlabel.takeWhile_append hends.takeWhile_eq_nil, hlabel'.takeWhile_append hends'.takeWhile_eq_nil] at hsame

/-- A label is found in front of a mark that starts with no character of labels. -/
theorem label?_eq_some {mark t term : Text} (hmark : ∀ rest, (mark ++ rest).takeWhile isLabelChar = []) :
    label? mark t = some term ↔ IsLabel term ∧ ∃ rest, t = labelStart ++ (term ++ (mark ++ rest)) := by
  simp only [label?, Option.bind_eq_bind, Option.bind_eq_some_iff, List.span_eq_takeWhile_dropWhile,
    Option.ite_none_left_eq_some, Option.some.injEq]
  constructor
  · rintro ⟨t', hstart, rest, hrest, hne, rfl⟩
    refine ⟨⟨by simpa using hne, fun c hc => List.mem_takeWhile_imp hc⟩, rest, ?_⟩
    rw [dropPrefix?_eq_some.mp hstart, ← dropPrefix?_eq_some.mp hrest, List.takeWhile_append_dropWhile]
    rfl
  · rintro ⟨hlabel, rest, rfl⟩
    refine ⟨_, dropPrefix?_eq_some.mpr rfl, rest, ?_, ?_, hlabel.takeWhile_append (hmark rest)⟩
    · rw [hlabel.dropWhile_append (hmark rest), dropPrefix?_eq_some]
    · rw [hlabel.takeWhile_append (hmark rest)]
      simpa using hlabel.ne_nil

theorem label?_cellEnd {t term : Text} : label? cellEnd t = some term ↔
    IsLabel term ∧ ∃ rest, t = labelStart ++ (term ++ (cellEnd ++ rest)) :=
  label?_eq_some fun _ => rfl

theorem label?_parametersStart {t term : Text} : label? parametersStart t = some term ↔
    IsLabel term ∧ ∃ rest, t = labelStart ++ (term ++ (parametersStart ++ rest)) :=
  label?_eq_some fun _ => rfl

/-! ## The last label of a line -/

/-- The last label with parameters. -/
def lastTemplate? (line : Text) : Option (Text × Text) :=
  (splitLast? (dropPrefix? parametersEnd) line).bind fun (before, _) => splitLast? (label? parametersStart) before

theorem lastLabel?_eq (line : Text) : lastLabel? line =
    match splitLast? (label? cellEnd) line, lastTemplate? line with
    | some p, some q => if p.1.length < q.1.length then some q else some p
    | p, q => p.or q := rfl

/-- The last label ends the cell, or has parameters. -/
theorem eq_of_lastLabel? {line : Text} {found : Text × Text} (h : lastLabel? line = some found) :
    splitLast? (label? cellEnd) line = some found ∨ lastTemplate? line = some found := by
  rw [lastLabel?_eq] at h
  split at h
  · rename_i hplain htemplate
    split at h
    · exact .inr (htemplate.trans h)
    · exact .inl (hplain.trans h)
  · exact (Option.or_eq_some_iff.mp h).imp_right And.right

/-- No label that ends the cell, and none with parameters, is behind the last one. -/
theorem lastLabel?_max {line : Text} {found : Text × Text}
    (h : splitLast? (label? cellEnd) line = some found ∨ lastTemplate? line = some found) :
    ∃ last, lastLabel? line = some last ∧ found.1.length ≤ last.1.length := by
  rw [lastLabel?_eq]
  obtain h | h := h
  · rw [h]
    cases lastTemplate? line with
    | none => exact ⟨found, rfl, le_rfl⟩
    | some q =>
      simp only
      split
      · rename_i hlt
        exact ⟨q, rfl, hlt.le⟩
      · exact ⟨found, rfl, le_rfl⟩
  · rw [h]
    cases splitLast? (label? cellEnd) line with
    | none => exact ⟨found, rfl, le_rfl⟩
    | some p =>
      simp only
      split
      · exact ⟨found, rfl, le_rfl⟩
      · rename_i hle
        exact ⟨p, rfl, Nat.le_of_not_lt hle⟩

/-- The last label is a label on the line. -/
theorem lastLabel?_sound {line before term : Text} (h : lastLabel? line = some (before, term)) :
    ∃ found, line = before ++ found ∧ Labels found term := by
  obtain hplain | htemplate := eq_of_lastLabel? h
  · obtain ⟨found, rfl, hfound⟩ := splitLast?_eq_some hplain
    obtain ⟨hlabel, rest, rfl⟩ := label?_cellEnd.mp hfound
    exact ⟨_, rfl, hlabel, _, .plain rest, rfl⟩
  · obtain ⟨⟨ended, rest⟩, hended, hlast⟩ := Option.bind_eq_some_iff.mp htemplate
    obtain ⟨found', rfl, hend⟩ := splitLast?_eq_some hended
    obtain ⟨found, rfl, hfound⟩ := splitLast?_eq_some hlast
    obtain ⟨hlabel, parameters, rfl⟩ := label?_parametersStart.mp hfound
    refine ⟨_, List.append_assoc .., hlabel, _, .template parameters rest, ?_⟩
    rw [dropPrefix?_eq_some.mp hend]
    simp only [List.append_assoc]

/-- A label with parameters is not behind the last one. -/
theorem lastTemplate?_complete {found term parameters rest : Text} (h : IsLabel term)
    (hfound : found = labelStart ++ (term ++ (parametersStart ++ (parameters ++ (parametersEnd ++ rest)))))
    (before : Text) :
    ∃ last term', lastTemplate? (before ++ found) = some (last, term') ∧ before <+: last := by
  have hend : dropPrefix? parametersEnd (parametersEnd ++ rest) = some rest := dropPrefix?_eq_some.mpr rfl
  obtain ⟨_, rest', hended, more, rfl⟩ :=
    splitLast?_of_found hend (before ++ (labelStart ++ (term ++ (parametersStart ++ parameters))))
  -- the last end of parameters may stand further on, and then the parameters hold the one in between
  have hlabel : label? parametersStart (labelStart ++ (term ++ (parametersStart ++ (parameters ++ more)))) =
      some term := label?_parametersStart.mpr ⟨h, _, rfl⟩
  obtain ⟨last, term', hlast, hle⟩ := splitLast?_of_found hlabel before
  simp only [List.append_assoc] at hended
  refine ⟨last, term', ?_, hle⟩
  rw [lastTemplate?, hfound, hended, Option.bind_some]
  simpa only [List.append_assoc] using hlast

/-- A label on the line is not behind the last one. -/
theorem lastLabel?_complete {found term : Text} (h : Labels found term) (before : Text) :
    ∃ last term', lastLabel? (before ++ found) = some (last, term') ∧ before <+: last := by
  obtain ⟨hlabel, rest, hends, hfound⟩ := h
  have hlast : ∃ last term', (splitLast? (label? cellEnd) (before ++ found) = some (last, term') ∨
      lastTemplate? (before ++ found) = some (last, term')) ∧ before <+: last := by
    cases hends with
    | plain rest =>
      obtain ⟨last, term', hlast, hle⟩ := splitLast?_of_found (label?_cellEnd.mpr ⟨hlabel, rest, hfound⟩) before
      exact ⟨last, term', .inl hlast, hle⟩
    | template parameters rest =>
      obtain ⟨last, term', hlast, hle⟩ := lastTemplate?_complete hlabel hfound before
      exact ⟨last, term', .inr hlast, hle⟩
  obtain ⟨last, term', hlast, hle⟩ := hlast
  obtain ⟨⟨last', term''⟩, hmax, hlength⟩ := lastLabel?_max hlast
  obtain ⟨found', hline, -⟩ := lastLabel?_sound hmax
  refine ⟨last', term'', hmax, ?_⟩
  have hfront : last' <+: before ++ found := ⟨found', hline.symm⟩
  exact List.prefix_of_prefix_length_le (List.prefix_append ..) hfront (hle.length_le.trans hlength)

/-! ## Entries -/

theorem pageName?_eq_some {t name : Text} : pageName? t = some name ↔ t = linkStart ++ name ∧ name ≠ [] := by
  simp only [pageName?, Option.bind_eq_some_iff, dropPrefix?_eq_some, Option.ite_none_left_eq_some, Option.some.injEq,
    List.isEmpty_iff]
  constructor
  · rintro ⟨name, rfl, hne, rfl⟩
    exact ⟨rfl, hne⟩
  · rintro ⟨rfl, hne⟩
    exact ⟨name, rfl, hne, rfl⟩

/-- What is read from a line stands on it. -/
theorem Entry.ofLine?_sound {line : Text} {e : Entry} (h : Entry.ofLine? line = some e) : e.StandsOn line := by
  simp only [Entry.ofLine?, Option.bind_eq_bind, Option.bind_eq_some_iff, Option.pure_def, Option.some.injEq] at h
  obtain ⟨⟨front, term⟩, hlabel, ⟨before, name⟩, hname, rfl⟩ := h
  obtain ⟨found, rfl, hfound⟩ := lastLabel?_sound hlabel
  obtain ⟨_, rfl, hstart⟩ := splitLast?_eq_some hname
  obtain ⟨rfl, hne⟩ := pageName?_eq_some.mp hstart
  refine ⟨before, name, ⟨⟨found, hfound, by simp only [List.append_assoc]⟩, hne⟩, rfl, ?_⟩
  rintro before' name' term' ⟨⟨found', hfound', hline⟩, hne'⟩
  -- the label of the other link is not behind the last one, so that link starts where a name can be read too
  obtain ⟨front, _, hlast, hle⟩ := lastLabel?_complete hfound' (before' ++ (linkStart ++ name'))
  rw [List.append_assoc, List.append_assoc, ← hline, hlabel] at hlast
  cases hlast
  obtain ⟨more, hmore⟩ := hle
  have hother : pageName? (linkStart ++ (name' ++ more)) = some (name' ++ more) :=
    pageName?_eq_some.mpr ⟨rfl, List.append_ne_nil_of_left_ne_nil hne' more⟩
  obtain ⟨last, _, hread, hle⟩ := splitLast?_of_found hother before'
  simp only [List.append_assoc] at hmore
  rw [hmore, hname] at hread
  cases hread
  refine ⟨hle, ?_⟩
  rintro rfl
  exact ⟨more, List.append_cancel_left (List.append_cancel_left hmore)⟩

/-- A line with a link has an entry. -/
theorem Entry.ofLine?_complete {line before name term : Text} (h : Link line before name term) :
    ∃ e, Entry.ofLine? line = some e := by
  obtain ⟨⟨found, hfound, rfl⟩, hne⟩ := h
  obtain ⟨_, term', hlabel, more, rfl⟩ := lastLabel?_complete hfound (before ++ (linkStart ++ name))
  have hstart : pageName? (linkStart ++ (name ++ more)) = some (name ++ more) :=
    pageName?_eq_some.mpr ⟨rfl, List.append_ne_nil_of_left_ne_nil hne more⟩
  obtain ⟨last, name', hname, -⟩ := splitLast?_of_found hstart before
  simp only [List.append_assoc] at hlabel
  refine ⟨⟨term', name' ++ pageSuffix⟩, ?_⟩
  rw [Entry.ofLine?, hlabel]
  simp only [Option.bind_eq_bind, Option.bind_some, hname, Option.pure_def]

/-- At most one entry stands on a line. -/
theorem Entry.StandsOn.unique {line : Text} {e e' : Entry} (h : e.StandsOn line) (h' : e'.StandsOn line) : e = e' := by
  obtain ⟨before, name, hlink, hhref, hlast⟩ := h
  obtain ⟨before', name', hlink', hhref', hlast'⟩ := h'
  obtain ⟨hbefore, hname⟩ := hlast _ _ _ hlink'
  obtain ⟨hbefore', hname'⟩ := hlast' _ _ _ hlink
  obtain rfl : before = before' := hbefore'.eq_of_length_le hbefore.length_le
  obtain rfl : name = name' := (hname' rfl).eq_of_length_le (hname rfl).length_le
  obtain ⟨found, hfound, rfl⟩ := hlink.written
  obtain ⟨found', hfound', hline⟩ := hlink'.written
  obtain rfl : found = found' := List.append_cancel_left (List.append_cancel_left (List.append_cancel_left hline))
  cases e
  cases e'
  simp only at hhref hhref' hfound hfound'
  rw [hhref, hhref', hfound.unique hfound']

/-- **The entry of a line** is the one that stands on it. -/
theorem Entry.ofLine?_eq_some {line : Text} {e : Entry} : Entry.ofLine? line = some e ↔ e.StandsOn line := by
  refine ⟨ofLine?_sound, fun h => ?_⟩
  have ⟨_, _, hlink, _⟩ := h
  obtain ⟨e', he'⟩ := ofLine?_complete hlink
  rw [he', (ofLine?_sound he').unique h]

/-- There is no entry on a line without a link. -/
theorem Entry.ofLine?_eq_none {line : Text} :
    Entry.ofLine? line = none ↔ ∀ before name term, ¬Link line before name term := by
  constructor
  · intro h before name term hlink
    obtain ⟨e, he⟩ := ofLine?_complete hlink
    rw [h] at he
    cases he
  · intro h
    refine Option.eq_none_iff_forall_ne_some.mpr fun e he => ?_
    obtain ⟨before, name, hlink, -⟩ := ofLine?_sound he
    exact h before name e.term hlink

end DocViewer.Stl
