import DocViewer.Proofs.Html.Contents

/-!
# Pages and their anchors

An anchor is a section tag, a label and the `</a>` behind it. A `Parting` cuts a page at anchors: text, an anchor, and
so on, and the text behind the last one. It is exact (`Parting.IsExact`) if each anchor is the first one behind the
anchors in front of it and its label ends at the next `</a>`.

- A page has an exact parting (`Parting.exists_written`), whatever is unclosed or nested in it: if the label of the
  first tag has no end, then no label has one, because every other tag ends behind that tag (`suffix_of_first_tag`).
- It is the only one (`Parting.eq_of_written`): an exact parting says what a search for the tag and then for the
  `</a>` finds.
- `unwrapAnchors` replaces the anchors of the exact parting by their labels (`Parting.unwrapAnchors_written`), and so
  does replacing every match of the pattern of an anchor (`Parting.replaceAll_written`).
-/

namespace DocViewer.Html

/-! ## Partings -/

/-- A page, cut into text and anchors. -/
inductive Parting
  | rest (text : Text)
  | anchor (before tag label close : Text) (behind : Parting)

namespace Parting

/-- The page. -/
def written : Parting → Text
  | rest text => text
  | anchor before tag label close behind => before ++ (tag ++ (label ++ (close ++ behind.written)))

/-- The page with the anchors replaced by their labels. -/
def unwrapped : Parting → Text
  | rest text => text
  | anchor before _ label _ behind => before ++ (label ++ behind.unwrapped)

/-- No section tag starts in the text in front of an anchor, and no `</a>` stands in a label. In the text behind the
last anchor there may be section tags, but no `</a>` behind any of them. -/
def IsExact : Parting → Prop
  | rest text => ∀ before, ∀ tag ∈ sectionTag, ∀ behind, text = before ++ (tag ++ behind) →
      Free (spellings "</a>".toList) behind
  | anchor before tag label close behind =>
      NoneStarts sectionTag before (tag ++ (label ++ (close ++ behind.written))) ∧ tag ∈ sectionTag ∧
        Free (spellings "</a>".toList) label ∧ close ∈ spellings "</a>".toList ∧ behind.IsExact

end Parting

/-! ## Searching for an anchor -/

variable {page before label after t : Text}

/-- The first section tag of a text. -/
theorem splitFirst?_sectionTag {rest : Text} : splitFirst? dropSectionTag? t = some (before, rest) ↔
    ∃ tag ∈ sectionTag, t = before ++ (tag ++ rest) ∧ NoneStarts sectionTag before (tag ++ rest) :=
  drops_dropSectionTag?.splitFirst?_eq_some

theorem splitFirst?_sectionTag_eq_none : splitFirst? dropSectionTag? t = none ↔ Free sectionTag t :=
  drops_dropSectionTag?.splitFirst?_eq_none not_nil_mem_sectionTag

/-- A label ends at the first `</a>`. -/
theorem splitFirst?_labelEnd : splitFirst? dropLabelEnd? t = some (label, after) ↔
    ∃ close ∈ spellings "</a>".toList, t = label ++ (close ++ after) ∧ Free (spellings "</a>".toList) label :=
  splitFirst?_spelling (by decide) (by decide)

theorem splitFirst?_labelEnd_eq_none : splitFirst? dropLabelEnd? t = none ↔ Free (spellings "</a>".toList) t :=
  (drops_dropFold? _).splitFirst?_eq_none (by decide)

/-- The label of an anchor at the front of a text, and what follows the anchor. -/
def anchor? (t : Text) : Option (Text × Text) := (dropSectionTag? t).bind (splitFirst? dropLabelEnd?)

theorem anchor?_shrinks : Shrinks anchor? := by
  intro t label after h
  obtain ⟨rest, htag, hend⟩ := Option.bind_eq_some_iff.mp h
  exact (length_of_splitFirst? hend length_of_dropLabelEnd?).trans (length_of_dropSectionTag? htag)

theorem anchor?_eq_some : anchor? t = some (label, after) ↔
    ∃ tag ∈ sectionTag, ∃ close ∈ spellings "</a>".toList,
      t = tag ++ (label ++ (close ++ after)) ∧ Free (spellings "</a>".toList) label := by
  rw [anchor?, Option.bind_eq_some_iff]
  constructor
  · rintro ⟨rest, htag, hend⟩
    obtain ⟨tag, hopen, rfl⟩ := (drops_dropSectionTag? _ _).mp htag
    obtain ⟨close, hclose, rfl, hlabel⟩ := splitFirst?_labelEnd.mp hend
    exact ⟨tag, hopen, close, hclose, rfl, hlabel⟩
  · rintro ⟨tag, hopen, close, hclose, rfl, hlabel⟩
    exact ⟨label ++ (close ++ after), (drops_dropSectionTag? _ _).mpr ⟨tag, hopen, rfl⟩,
      splitFirst?_labelEnd.mpr ⟨close, hclose, rfl, hlabel⟩⟩

/-! ## Tags behind the first one -/

/-- Every section tag ends where the first one ends or further on. -/
theorem suffix_of_first_tag {before tag rest before' tag' rest' : Text} (htag : tag ∈ sectionTag)
    (hfirst : NoneStarts sectionTag before (tag ++ rest)) (htag' : tag' ∈ sectionTag)
    (h : before ++ (tag ++ rest) = before' ++ (tag' ++ rest')) : rest' <:+ rest := by
  -- the other tag does not start in front of the first one
  obtain ⟨u, -, hbehind⟩ : ∃ u, before' = before ++ u ∧ tag ++ rest = u ++ (tag' ++ rest') := by
    obtain hle | ⟨v, rfl, hv⟩ := List.append_eq_append_iff.mp h
    · exact hle
    · cases v with
      | nil => exact ⟨[], by simp, hv.symm⟩
      | cons c v => exact absurd ⟨rest', hv⟩ (hfirst _ _ rfl (List.cons_ne_nil c v) tag' htag')
  have hsuffix : rest' <:+ tag ++ rest := ⟨u ++ tag', by rw [hbehind, List.append_assoc]⟩
  obtain hle | ⟨x, rfl⟩ := List.suffix_or_suffix_of_suffix hsuffix (List.suffix_append tag rest)
  · exact hle
  · -- it ends in the first one, so it is the first one
    have hin : tag ++ rest = (u ++ (tag' ++ x)) ++ rest := by rw [hbehind, List.append_assoc, List.append_assoc]
    obtain ⟨-, rfl⟩ :=
      (isTag_sectionTag htag).eq_of_append (isTag_sectionTag htag') (List.append_cancel_right hin)
    exact List.suffix_rfl

namespace Parting

/-! ## What an exact parting says about the searches -/

theorem IsExact.splitFirst?_tag {tag close : Text} {behind : Parting}
    (h : (anchor before tag label close behind).IsExact) :
    splitFirst? dropSectionTag? (anchor before tag label close behind).written =
      some (before, label ++ (close ++ behind.written)) := by
  obtain ⟨hbefore, htag, -⟩ := h
  exact splitFirst?_sectionTag.mpr ⟨tag, htag, rfl, hbefore⟩

theorem IsExact.splitFirst?_end {tag close : Text} {behind : Parting}
    (h : (anchor before tag label close behind).IsExact) :
    splitFirst? dropLabelEnd? (label ++ (close ++ behind.written)) = some (label, behind.written) := by
  obtain ⟨-, -, hlabel, hclose, -⟩ := h
  exact splitFirst?_labelEnd.mpr ⟨close, hclose, rfl, hlabel⟩

theorem IsExact.splitFirst?_end_eq_none {text rest : Text} (h : (Parting.rest text).IsExact)
    (htag : splitFirst? dropSectionTag? text = some (before, rest)) : splitFirst? dropLabelEnd? rest = none := by
  obtain ⟨tag, hopen, heq, -⟩ := splitFirst?_sectionTag.mp htag
  exact splitFirst?_labelEnd_eq_none.mpr (h before tag hopen rest heq)

/-! ## Every page has one exact parting -/

/-- If the label of the first tag has no end, then nothing is to be cut. -/
theorem isExact_of_open {rest : Text} (htag : splitFirst? dropSectionTag? page = some (before, rest))
    (hend : splitFirst? dropLabelEnd? rest = none) : (Parting.rest page).IsExact := by
  obtain ⟨tag, hopen, rfl, hfirst⟩ := splitFirst?_sectionTag.mp htag
  intro before' tag' hopen' behind heq
  exact (splitFirst?_labelEnd_eq_none.mp hend).of_isInfix (suffix_of_first_tag hopen hfirst hopen' heq).isInfix

theorem exists_written (page : Text) : ∃ d : Parting, d.IsExact ∧ d.written = page := by
  induction hlen : page.length using Nat.strongRecOn generalizing page with
  | ind n ih =>
    subst hlen
    cases htag : splitFirst? dropSectionTag? page with
    | none =>
      refine ⟨rest page, fun before tag hopen behind heq => ?_, rfl⟩
      exact absurd ⟨before, behind, by rw [heq, List.append_assoc]⟩ (splitFirst?_sectionTag_eq_none.mp htag tag hopen)
    | some found =>
      obtain ⟨before, opened⟩ := found
      cases hend : splitFirst? dropLabelEnd? opened with
      | none => exact ⟨rest page, isExact_of_open htag hend, rfl⟩
      | some ended =>
        obtain ⟨label, after⟩ := ended
        have hopened := length_of_splitFirst? htag length_of_dropSectionTag?
        have hafter := length_of_splitFirst? hend length_of_dropLabelEnd?
        obtain ⟨behind, hexact, rfl⟩ := ih _ (hafter.trans hopened) after rfl
        obtain ⟨tag, hopen, rfl, hbefore⟩ := splitFirst?_sectionTag.mp htag
        obtain ⟨close, hclose, rfl, hlabel⟩ := splitFirst?_labelEnd.mp hend
        exact ⟨anchor before tag label close behind, ⟨hbefore, hopen, hlabel, hclose, hexact⟩, rfl⟩

/-- The searches find something in the one parting and not in the other. -/
theorem written_rest_ne {text tag close : Text} {behind : Parting} (h : (rest text).IsExact)
    (h' : (anchor before tag label close behind).IsExact) : text ≠ (anchor before tag label close behind).written := by
  rintro rfl
  have hend := h.splitFirst?_end_eq_none h'.splitFirst?_tag
  rw [h'.splitFirst?_end] at hend
  cases hend

theorem eq_of_written {d d' : Parting} (h : d.IsExact) (h' : d'.IsExact) (heq : d.written = d'.written) : d = d' := by
  induction d generalizing d' with
  | rest text =>
    cases d' with
    | rest text' => exact congrArg rest heq
    | anchor => exact absurd heq (written_rest_ne h h')
  | anchor before tag label close behind ih =>
    cases d' with
    | rest text' => exact absurd heq.symm (written_rest_ne h' h)
    | anchor before' tag' label' close' behind' =>
      have htag := h.splitFirst?_tag
      rw [heq, h'.splitFirst?_tag] at htag
      obtain ⟨rfl, hopened⟩ := Prod.mk.inj (Option.some.inj htag)
      have hend := h.splitFirst?_end
      rw [← hopened, h'.splitFirst?_end] at hend
      obtain ⟨rfl, hbehind⟩ := Prod.mk.inj (Option.some.inj hend)
      obtain rfl := ih h.2.2.2.2 h'.2.2.2.2 hbehind.symm
      -- what stands between two equal texts is equal
      obtain rfl : close' = close := by simpa using hopened
      obtain rfl : tag = tag' := by simpa [written] using heq
      rfl

/-! ## Unwrapping -/

theorem unwrapAnchors_written {d : Parting} (h : d.IsExact) : unwrapAnchors d.written = d.unwrapped := by
  induction d with
  | rest text =>
    cases htag : splitFirst? dropSectionTag? text with
    | none => exact unwrapAnchors_of_none htag
    | some found => exact unwrapAnchors_of_open htag (h.splitFirst?_end_eq_none htag)
  | anchor before tag label close behind ih =>
    rw [unwrapAnchors_of_label h.splitFirst?_tag h.splitFirst?_end, ih h.2.2.2.2, unwrapped]

/-- Replacing every match of the pattern, from the front, is the same. -/
theorem replaceAll_written {d : Parting} (h : d.IsExact) :
    replaceAll anchor? anchor?_shrinks d.written = d.unwrapped := by
  induction d with
  | rest text =>
    have hclear : Clear anchor? text [] := by
      refine clear_of_eq_none fun u c v htext => Option.eq_none_iff_forall_ne_some.mpr fun (label, after) hmatch => ?_
      obtain ⟨tag, hopen, close, hclose, heq, -⟩ := anchor?_eq_some.mp hmatch
      rw [List.append_nil] at heq
      have hfree := h u tag hopen (label ++ (close ++ after)) (by rw [htext, heq])
      exact hfree close hclose ⟨label, after, List.append_assoc ..⟩
    have hkept := replaceAll_append anchor?_shrinks hclear
    rwa [List.append_nil, replaceAll_nil, List.append_nil] at hkept
  | anchor before tag label close behind ih =>
    obtain ⟨hbefore, htag, hlabel, hclose, hbehind⟩ := h
    have hclear : Clear anchor? before (tag ++ (label ++ (close ++ behind.written))) :=
      (drops_dropSectionTag?.noneStarts_iff.mp hbefore).mono fun t ht => by rw [anchor?, ht, Option.bind_none]
    have hhere : anchor? (tag ++ (label ++ (close ++ behind.written))) = some (label, behind.written) :=
      anchor?_eq_some.mpr ⟨tag, htag, close, hclose, rfl, hlabel⟩
    rw [written, replaceAll_append anchor?_shrinks hclear, replaceAll_of_some anchor?_shrinks hhere, ih hbehind,
      unwrapped]

end Parting

/-- **Unwrapping, on every page.** There is one exact parting of a page. Its anchors become their labels, and all the
rest stays as it is and in its order; this is also what replacing every match of the pattern of an anchor gives. -/
theorem unwrapAnchors_eq_unwrapped (page : Text) :
    ∃ d : Parting, d.IsExact ∧ d.written = page ∧ (∀ d' : Parting, d'.IsExact → d'.written = page → d' = d) ∧
      unwrapAnchors page = d.unwrapped ∧ replaceAll anchor? anchor?_shrinks page = unwrapAnchors page := by
  obtain ⟨d, hexact, rfl⟩ := Parting.exists_written page
  refine ⟨d, hexact, rfl, fun d' hexact' heq => Parting.eq_of_written hexact' hexact heq, ?_, ?_⟩
  · exact Parting.unwrapAnchors_written hexact
  · rw [Parting.replaceAll_written hexact, Parting.unwrapAnchors_written hexact]

/-- A tag nested in a label, and one without an end. -/
example : unwrapAnchors ("a<A NAME='sect1' HREF=\"#toc1\">b<a name='sect2' href='#toc2'>c</A></a>".toList ++
      "<a name='ſect3' href='#toc3'>d".toList) =
    "ab<a name='sect2' href='#toc2'>c</a><a name='ſect3' href='#toc3'>d".toList := by decide +kernel

end DocViewer.Html
