import DocViewer.Proofs.Html.Tags

/-!
# Pages of the formatter

A `Document` is a page as the formatter writes it: `Item`s, a table of contents and further items. An item is text, the
heading of a section, which links to the table of contents, or the link of the first line.

- `dropContents_written`: the table is found in its place, behind the last item in front of it.
- `unwrapAnchors_written`: each heading becomes its label. The items behind the table now follow those in front of it,
  but a tag that starts in one ends in it, so none is made where two of them meet.
- `dropTopLinks_unwrapped`: the links of the first line are removed, and no link is made of labels and text.
- `tidy_document` puts these together: a page becomes its items, without the links to the table of contents.
-/

namespace DocViewer.Html

/-! ## Documents -/

/-- A text in which every tag is closed and none, in any case, belongs to the table of contents. -/
structure IsPiece (text : Text) : Prop where
  closed : Closed text
  no_rule : Free (spellings "<hr><p>".toList) text
  no_section : Free sectionTag text
  no_top : Free topTag text

/-- The label of a heading: a piece in which no link ends. -/
structure IsLabel (text : Text) : Prop extends IsPiece text where
  no_end : Free (spellings "</a>".toList) text

/-- What the formatter writes: text with other tags, the heading of a section, or a link to the table of contents. -/
inductive Item
  | plain (text : Text) (isPiece : IsPiece text)
  | heading (tag label close : Text) (opens : tag ∈ sectionTag) (isLabel : IsLabel label)
      (closes : close ∈ spellings "</a>".toList)
  | top (link : Text) (links : link ∈ topLink)

namespace Item

def IsPlain : Item → Prop
  | plain .. => True
  | heading .. => False
  | top .. => False

/-- The item as it stands in the page. -/
def written : Item → Text
  | plain text _ => text
  | heading tag label close .. => tag ++ (label ++ close)
  | top link _ => link

/-- The item with a heading replaced by its label. -/
def unwrapped : Item → Text
  | plain text _ => text
  | heading _ label .. => label
  | top link _ => link

/-- What is to remain of the item. -/
def kept : Item → Text
  | plain text _ => text
  | heading _ label .. => label
  | top .. => []

end Item

/-- A page of the formatter. No two plain items follow each other in front of the table of contents, nothing follows a
table that is not there, and no list ends behind the table. -/
structure Document where
  before : List Item
  contents : Text
  after : List Item
  separate : before.IsChain fun i j => ¬(i.IsPlain ∧ j.IsPlain)
  contents_mem : contents ∈ table ∨ contents = [] ∧ after = []
  no_list : Free (spellings "</ul>".toList) (after.flatMap Item.written)

namespace Document

def written (d : Document) : Text := d.before.flatMap Item.written ++ (d.contents ++ d.after.flatMap Item.written)

/-- The items in front of the table of contents and behind it, each section heading replaced by its label and each link
to the table removed. -/
def kept (d : Document) : Text := d.before.flatMap Item.kept ++ d.after.flatMap Item.kept

end Document

/-- The tags of the table of contents hold `#toc`, so a text that does not is a piece if its tags are closed and it has
no rule. -/
theorem isPiece_of_clear {text : Text} (hclosed : Closed text) (hrule : Clear (dropFold? "<hr><p>".toList) text [])
    (htoc : Clear (dropFold? "#toc".toList) text []) : IsPiece text := by
  have hfree := (free_spellings (by decide)).mpr htoc
  refine ⟨hclosed, (free_spellings (by decide)).mpr hrule, fun w hw hin => ?_, fun w hw hin => ?_⟩
  · obtain ⟨a, ha, haw⟩ := toc_infix_sectionTag hw
    exact hfree a ha (haw.trans hin)
  · obtain ⟨a, ha, haw⟩ := toc_infix_topTag hw
    exact hfree a ha (haw.trans hin)

/-! ## What does not start in an item -/

variable {α : Type} {m : Text → Option α} {p : Text}

/-- A rule starts in a piece only if it ends behind it. -/
theorem IsPiece.clear_rule {piece t : Text} (h : IsPiece piece) (ht : dropFold? "<p>".toList t = none) :
    Clear (dropFold? "<hr><p>".toList) piece t := by
  obtain ⟨hclosed, hfree, -, -⟩ := h
  induction piece with
  | nil => trivial
  | cons c piece ih =>
    refine ⟨Option.eq_none_iff_forall_ne_some.mpr fun rest hrest => ?_, ih hclosed.2 (Free.tail hfree)⟩
    obtain ⟨w, hw, heq⟩ := (drops_dropFold? _ _ _).mp hrest
    have hsplit : spellings "<hr><p>".toList = spellings "<hr>".toList * spellings "<p>".toList :=
      spellings_append "<hr>".toList "<p>".toList
    obtain ⟨rule, hrule, par, hpar, rfl⟩ := Language.mem_mul.mp (hsplit ▸ hw)
    rw [List.append_assoc, ← List.cons_append] at heq
    obtain ⟨p', hp', hrest'⟩ := hclosed.tag_within (List.cons_ne_nil c piece)
      (isTag_spelling (p := "hr".toList) (by decide) (by decide) hrule) heq
    by_cases hnil : p' = []
    · -- the piece ends with the first tag, and the second one would follow it
      rw [hnil, List.nil_append] at hrest'
      rw [(drops_dropFold? _ _ _).mpr ⟨par, hpar, hrest'⟩] at ht
      cases ht
    · obtain ⟨p'', hp'', -⟩ := (hp' ▸ hclosed : Closed (rule ++ p')).right.tag_within hnil
        (isTag_spelling (p := ['p']) (by decide) (by decide) hpar) hrest'
      exact hfree _ hw ⟨[], p'', by rw [hp', hp'', List.nil_append, List.append_assoc]⟩

theorem heads_dropSectionTag? : Heads (spellings "<a name=".toList) dropSectionTag? :=
  drops_dropSectionTag?.heads.left.left

theorem heads_topLink? : Heads topLink topLink? := fun t a h => by
  obtain ⟨rest, hrest, -⟩ := Option.map_eq_some_iff.mp h
  exact drops_dropTopLink?.heads t rest hrest

theorem IsPiece.clear_section {piece : Text} (h : IsPiece piece) (t : Text) : Clear dropSectionTag? piece t :=
  h.closed.clear drops_dropSectionTag?.heads (fun _ => isTag_sectionTag) h.no_section t

theorem IsPiece.clear_top {piece : Text} (h : IsPiece piece) (t : Text) : Clear topLink? piece t :=
  h.closed.clear heads_topLink?.left (fun _ => isTag_topTag) h.no_top t

theorem IsLabel.clear_end {label : Text} (h : IsLabel label) (t : Text) : Clear dropLabelEnd? label t :=
  h.closed.clear (heads_dropFold? _) (fun _ => isTag_spelling (p := "/a".toList) (by decide) (by decide)) h.no_end t

/-- No match of another tag starts in the tag of a heading. -/
theorem clear_sectionTag (hm : Heads (spellings p) m) (hp : p.head? = some '<') (h : Apart p "<a name=".toList)
    {tag : Text} (htag : tag ∈ sectionTag) (t : Text) : Clear m tag t := by
  obtain ⟨a, ha, b, rfl⟩ := exists_front htag
  exact (isTag_sectionTag htag).clear hm hp h ha t

/-- No match of another tag starts in a link to the table of contents. -/
theorem clear_topLink (hm : Heads (spellings p) m) (hp : p.head? = some '<') (htag : Apart p "<a href=".toList)
    (htext : ∀ s ∈ "table of contents</a><p>".toList.tails, s ≠ [] → Apart p s) {link : Text} (hlink : link ∈ topLink)
    (t : Text) : Clear m link t := by
  obtain ⟨tag, hopen, text, hclose, rfl⟩ := Language.mem_mul.mp hlink
  obtain ⟨a, ha, b, rfl⟩ := exists_front hopen
  exact clear_append.mpr ⟨(isTag_topTag hopen).clear hm hp htag ha _, hm.clear_spelling htext hclose t⟩

/-- An item that is no text starts with a link. -/
theorem Item.not_par {item : Item} (h : ¬item.IsPlain) (t : Text) :
    dropFold? "<p>".toList (item.written ++ t) = none := by
  cases item with
  | plain => exact absurd trivial h
  | heading tag label close opens =>
    obtain ⟨a, ha, b, rfl⟩ := exists_front opens
    rw [Item.written, List.append_assoc, List.append_assoc]
    exact dropFold?_eq_none (by decide) ha _
  | top link links =>
    obtain ⟨tag, hopen, text, -, rfl⟩ := Language.mem_mul.mp links
    obtain ⟨a, ha, b, rfl⟩ := exists_front hopen
    rw [Item.written, List.append_assoc, List.append_assoc]
    exact dropFold?_eq_none (by decide) ha _

/-- A rule starts in items only if it ends behind them: two of them that are text do not follow each other. -/
theorem clear_rule_written {items : List Item} (h : items.IsChain fun i j => ¬(i.IsPlain ∧ j.IsPlain)) {t : Text}
    (ht : dropFold? "<p>".toList t = none) : Clear (dropFold? "<hr><p>".toList) (items.flatMap Item.written) t := by
  have hrule := heads_dropFold? "<hr><p>".toList
  induction items with
  | nil => trivial
  | cons item items ih =>
    rw [List.flatMap_cons, clear_append]
    refine ⟨?_, ih h.of_cons⟩
    cases item with
    | plain text isPiece =>
      refine isPiece.clear_rule ?_
      cases items with
      | nil => exact ht
      | cons next items =>
        rw [List.flatMap_cons, List.append_assoc]
        exact Item.not_par (fun hplain => (List.isChain_cons_cons.mp h).1 ⟨trivial, hplain⟩) _
    | heading tag label close opens isLabel closes =>
      refine clear_append.mpr ⟨clear_sectionTag hrule rfl (by decide) opens _, clear_append.mpr ⟨?_, ?_⟩⟩
      · exact isLabel.clear_rule (dropFold?_eq_none (by decide) closes _)
      · exact hrule.clear_spelling (by decide) closes _
    | top link links => exact clear_topLink hrule rfl (by decide) (by decide) links _

/-! ## The table of contents -/

theorem dropContents_of_clear {page : Text} (h : Clear (dropFold? "<hr><p>".toList) page []) :
    dropContents page = page := by
  rw [dropContents, splitFirst?_eq_none h rfl]

/-- A table that no rule comes before and no list ends behind is removed. -/
theorem dropContents_table {before contents after : Text} (htable : contents ∈ table)
    (hbefore : ∀ t, dropFold? "<p>".toList t = none → Clear (dropFold? "<hr><p>".toList) before t)
    (hafter : Free (spellings "</ul>".toList) after) :
    dropContents (before ++ (contents ++ after)) = before ++ after := by
  obtain ⟨_, hmul, close, hclose, rfl⟩ := Language.mem_mul.mp htable
  obtain ⟨rule, hrule, inside, -, rfl⟩ := Language.mem_mul.mp hmul
  have hfirst : splitFirst? (dropFold? "<hr><p>".toList) (before ++ (rule ++ (inside ++ (close ++ after)))) =
      some (before, inside ++ (close ++ after)) :=
    splitFirst?_of_clear (hbefore _ (dropFold?_eq_none (by decide) hrule _))
      ((drops_dropFold? _ _ _).mpr ⟨rule, hrule, rfl⟩)
  have hlast : splitLast? (dropFold? "</ul>".toList) (close ++ after) = some ([], after) := by
    obtain ⟨body, rfl, hbody, -⟩ := isTag_spelling (p := "/ul".toList) (by decide) (by decide) hclose
    have hnext : '<' ∉ body ++ ['>'] := by simpa using hbody
    refine splitLast?_of_clear ((drops_dropFold? _ _ _).mpr ⟨_, hclose, rfl⟩) (clear_append.mpr ⟨?_, ?_⟩) rfl
    · exact ((heads_dropFold? _).starts rfl rfl).clear hnext _
    · exact (free_spellings (by decide)).mp hafter
  rw [List.append_assoc, List.append_assoc, dropContents, hfirst]
  simp only [splitLast?_append hlast]

theorem dropContents_written (d : Document) : dropContents d.written = (d.before ++ d.after).flatMap Item.written := by
  rw [Document.written, List.flatMap_append]
  obtain htable | ⟨hnone, hafter⟩ := d.contents_mem
  · exact dropContents_table htable (fun _ => clear_rule_written d.separate) d.no_list
  · have hclear : Clear (dropFold? "<hr><p>".toList) (d.before.flatMap Item.written) [] :=
      clear_rule_written d.separate rfl
    rw [hnone, hafter, List.flatMap_nil, List.append_nil, List.append_nil, dropContents_of_clear hclear]

/-! ## Headings -/

theorem length_of_dropLabelEnd? {t rest : Text} (h : dropLabelEnd? t = some rest) : rest.length < t.length := by
  have := length_of_dropFold? h
  simp at this
  omega

theorem unwrapFrom_of_none {page : Text} (h : splitFirst? dropSectionTag? page = none) (out : Text) :
    unwrapFrom out page = out.reverse ++ page := by
  unfold unwrapFrom
  split <;> simp_all

theorem unwrapFrom_of_open {page before rest : Text} (h : splitFirst? dropSectionTag? page = some (before, rest))
    (hend : splitFirst? dropLabelEnd? rest = none) (out : Text) : unwrapFrom out page = out.reverse ++ page := by
  unfold unwrapFrom
  split
  · rfl
  · split <;> simp_all

theorem unwrapFrom_of_label {page before rest label after : Text}
    (h : splitFirst? dropSectionTag? page = some (before, rest))
    (hend : splitFirst? dropLabelEnd? rest = some (label, after)) (out : Text) :
    unwrapFrom out page = unwrapFrom (label.reverse ++ (before.reverse ++ out)) after := by
  rw [unwrapFrom]
  split
  · simp_all
  · split <;> simp_all

/-- What was written so far stands in front. -/
theorem unwrapFrom_eq (out page : Text) : unwrapFrom out page = out.reverse ++ unwrapAnchors page := by
  induction hlen : page.length using Nat.strongRecOn generalizing out page with
  | ind n ih =>
    subst hlen
    cases htag : splitFirst? dropSectionTag? page with
    | none => rw [unwrapAnchors, unwrapFrom_of_none htag, unwrapFrom_of_none htag]; rfl
    | some found =>
      obtain ⟨before, rest⟩ := found
      cases hend : splitFirst? dropLabelEnd? rest with
      | none => rw [unwrapAnchors, unwrapFrom_of_open htag hend, unwrapFrom_of_open htag hend]; rfl
      | some ended =>
        have hrest := length_of_splitFirst? htag length_of_dropSectionTag?
        have hafter := length_of_splitFirst? hend length_of_dropLabelEnd?
        have hshort := hafter.trans hrest
        rw [unwrapAnchors, unwrapFrom_of_label htag hend, unwrapFrom_of_label htag hend, ih _ hshort _ _ rfl,
          ih _ hshort (_ ++ (_ ++ [])) _ rfl]
        simp

theorem unwrapAnchors_of_none {page : Text} (h : splitFirst? dropSectionTag? page = none) : unwrapAnchors page = page :=
  unwrapFrom_of_none h []

theorem unwrapAnchors_of_open {page before rest : Text} (h : splitFirst? dropSectionTag? page = some (before, rest))
    (hend : splitFirst? dropLabelEnd? rest = none) : unwrapAnchors page = page :=
  unwrapFrom_of_open h hend []

theorem unwrapAnchors_of_label {page before rest label after : Text}
    (h : splitFirst? dropSectionTag? page = some (before, rest))
    (hend : splitFirst? dropLabelEnd? rest = some (label, after)) :
    unwrapAnchors page = before ++ (label ++ unwrapAnchors after) := by
  rw [unwrapAnchors, unwrapFrom_of_label h hend, unwrapFrom_eq]
  simp

/-- Text in which no section tag starts is passed over. -/
theorem unwrapAnchors_append {p t : Text} (h : Clear dropSectionTag? p t) :
    unwrapAnchors (p ++ t) = p ++ unwrapAnchors t := by
  have hpass := splitFirst?_append h
  cases htag : splitFirst? dropSectionTag? t with
  | none =>
    rw [htag] at hpass
    rw [unwrapAnchors_of_none hpass, unwrapAnchors_of_none htag]
  | some found =>
    obtain ⟨before, rest⟩ := found
    rw [htag] at hpass
    cases hend : splitFirst? dropLabelEnd? rest with
    | none => rw [unwrapAnchors_of_open hpass hend, unwrapAnchors_of_open htag hend]
    | some ended =>
      rw [unwrapAnchors_of_label hpass hend, unwrapAnchors_of_label htag hend, List.append_assoc]

/-- A heading becomes its label, and unwrapping goes on behind it. -/
theorem unwrapAnchors_heading {tag label close t : Text} (hopen : tag ∈ sectionTag) (hlabel : IsLabel label)
    (hclose : close ∈ spellings "</a>".toList) :
    unwrapAnchors (tag ++ (label ++ (close ++ t))) = label ++ unwrapAnchors t := by
  have htag : splitFirst? dropSectionTag? (tag ++ (label ++ (close ++ t))) = some ([], label ++ (close ++ t)) :=
    splitFirst?_of_some ((drops_dropSectionTag? _ _).mpr ⟨tag, hopen, rfl⟩)
  have hend : splitFirst? dropLabelEnd? (label ++ (close ++ t)) = some (label, t) :=
    splitFirst?_of_clear (hlabel.clear_end _) ((drops_dropFold? _ _ _).mpr ⟨close, hclose, rfl⟩)
  rw [unwrapAnchors_of_label htag hend, List.nil_append]

theorem unwrapAnchors_written (items : List Item) :
    unwrapAnchors (items.flatMap Item.written) = items.flatMap Item.unwrapped := by
  induction items with
  | nil => exact unwrapAnchors_of_none rfl
  | cons item items ih =>
    rw [List.flatMap_cons, List.flatMap_cons, ← ih]
    cases item with
    | plain text isPiece => exact unwrapAnchors_append (isPiece.clear_section _)
    | heading tag label close opens isLabel closes =>
      rw [Item.written, List.append_assoc, List.append_assoc]
      exact unwrapAnchors_heading opens isLabel closes
    | top link links =>
      exact unwrapAnchors_append (clear_topLink heads_dropSectionTag? rfl (by decide) (by decide) links _)

/-! ## The link of the first line -/

theorem dropTopLinks_unwrapped (items : List Item) :
    dropTopLinks (items.flatMap Item.unwrapped) = items.flatMap Item.kept := by
  induction items with
  | nil => exact replaceAll_nil ..
  | cons item items ih =>
    rw [List.flatMap_cons, List.flatMap_cons, ← ih]
    cases item with
    | plain text isPiece => exact replaceAll_append _ (isPiece.clear_top _)
    | heading tag label close opens isLabel closes => exact replaceAll_append _ (isLabel.clear_top _)
    | top link links =>
      refine replaceAll_of_some _ ?_
      exact congrArg (Option.map ([], ·)) ((drops_dropTopLink? _ _).mpr ⟨link, links, rfl⟩)

/-- **Tidying a page of the formatter.** Of a page the items in front of the table of contents and behind it remain,
each section heading replaced by its label and each link to the table removed; every other character stays as it is. -/
theorem tidy_document (d : Document) : tidy d.written = d.kept := by
  rw [tidy, dropContents_written, unwrapAnchors_written, dropTopLinks_unwrapped, List.flatMap_append, Document.kept]

/-- A page with a table of contents in the middle, other links, other lists, and a rule in front of the table. -/
def listing : Document where
  before :=
    [.top "<A HREF=\"#toc\">Table of Contents</A><P>".toList (drops_dropTopLink?.mem (by decide)),
      .plain "\n<H2>".toList (isPiece_of_clear (by decide) (by decide) (by decide)),
      .heading "<A NAME=\"sect0\" HREF='#toc0'>".toList "NAME".toList "</A>".toList
        (drops_dropSectionTag?.mem (by decide))
        ⟨isPiece_of_clear (by decide) (by decide) (by decide), (free_spellings (by decide)).mpr (by decide)⟩
        (by decide),
      .plain "</H2>\n<ul><li><a href='man:ls(1)'>ls</a></ul><hr>".toList
        (isPiece_of_clear (by decide) (by decide) (by decide))]
  contents := "<HR><P>".toList ++ "<ul><li>Name<ul></ul>".toList ++ "</UL>".toList
  after := [.plain "<p>tail".toList (isPiece_of_clear (by decide) (by decide) (by decide))]
  separate := by simp [Item.IsPlain]
  contents_mem := .inl (Language.append_mem_mul (Language.append_mem_mul (by decide) trivial) (by decide))
  no_list := (free_spellings (by decide)).mpr (by decide)

/-- Labels, other links and other lists stay, and so does the rule in front of the table, though a paragraph follows it
now. -/
theorem tidy_document_listing :
    listing.written = "<A HREF=\"#toc\">Table of Contents</A><P>\n<H2><A NAME=\"sect0\" HREF='#toc0'>NAME".toList ++
      "</A></H2>\n<ul><li><a href='man:ls(1)'>ls</a></ul><hr><HR><P><ul><li>Name<ul></ul></UL><p>tail".toList ∧
    tidy listing.written = "\n<H2>NAME</H2>\n<ul><li><a href='man:ls(1)'>ls</a></ul><hr><p>tail".toList :=
  ⟨by decide +kernel, (tidy_document listing).trans (by decide +kernel)⟩

end DocViewer.Html
