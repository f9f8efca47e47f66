import DocViewer.Html.Title
import DocViewer.Proofs.Text.Places
import DocViewer.Proofs.Text.Spelling

/-!
# Pages with other tags

A page may have its tags changed and keep its title. `Retagged t t'` says that the texts differ only in tags that have
nothing to do with titles (`OtherTags`): some of them stand in the place of others. Looking for a tag of a title leads
to the same places of both texts, so the text of the first title element of the one is that of the other, retagged
(`Retagged.rawTitle?`), and if it holds no tag it is the same (`Retagged.rawTitle?_eq`).

`FirstTitle` says what the first title element is, whoever looks for it.
-/

namespace DocViewer.Html

/-! ## The first title element -/

/-- The page has a title element with the text `raw`: it starts at the first `<title>` and ends at the first `</title>`
behind that. -/
def FirstTitle (page raw : Text) : Prop :=
  ∃ before opening closing after, page = before ++ (opening ++ (raw ++ (closing ++ after))) ∧
    opening ∈ spellings "<title>".toList ∧ Free (spellings "<title>".toList) before ∧
    closing ∈ spellings "</title>".toList ∧ Free (spellings "</title>".toList) raw

theorem rawTitle?_eq_some_iff {page raw : Text} : rawTitle? page = some raw ↔ FirstTitle page raw := by
  have hopen : ∀ before rest, splitFirst? (dropFold? "<title>".toList) page = some (before, rest) ↔
      ∃ w ∈ spellings "<title>".toList, page = before ++ (w ++ rest) ∧ Free (spellings "<title>".toList) before :=
    fun _ _ => splitFirst?_spelling (by decide) (by decide)
  have hclose : ∀ rest after, splitFirst? (dropFold? "</title>".toList) rest = some (raw, after) ↔
      ∃ w ∈ spellings "</title>".toList, rest = raw ++ (w ++ after) ∧ Free (spellings "</title>".toList) raw :=
    fun _ _ => splitFirst?_spelling (by decide) (by decide)
  simp only [rawTitle?, Option.bind_eq_bind, Option.bind_eq_some_iff, Option.pure_def, Option.some.injEq, Prod.exists,
    hopen]
  constructor
  · rintro ⟨before, rest, ⟨opening, hopening, rfl, hbefore⟩, _, after, hfound, rfl⟩
    obtain ⟨closing, hclosing, rfl, hraw⟩ := (hclose _ _).mp hfound
    exact ⟨before, opening, closing, after, rfl, hopening, hbefore, hclosing, hraw⟩
  · rintro ⟨before, opening, closing, after, rfl, hopening, hbefore, hclosing, hraw⟩
    have hfound := (hclose _ after).mpr ⟨closing, hclosing, rfl, hraw⟩
    exact ⟨before, _, ⟨opening, hopening, rfl, hbefore⟩, raw, after, hfound, rfl⟩

/-! ## Tags that are not those of a title -/

def titleTags : List Text := ["<title>".toList, "</title>".toList]

/-- A stretch that starts with a tag and in which no tag of a title starts, whatever follows. -/
structure OtherTags (w : Text) : Prop where
  opens : w.head? = some '<'
  clear : ∀ p ∈ titleTags, ∀ t, Clear (dropFold? p) w t

namespace OtherTags

variable {w w' t : Text}

/-- A literal that is apart from the tags of titles. -/
theorem of_spelling {q : Text} (hq : q.head? = some '<')
    (h : ∀ p ∈ titleTags, ∀ s ∈ q.tails, s ≠ [] → Apart p s) (hw : w ∈ spellings q) : OtherTags w := by
  refine ⟨?_, fun p hp t => (heads_dropFold? p).clear_spelling (h p hp) hw t⟩
  obtain rfl : w.map fold = q := hw
  cases w with
  | nil => cases hq
  | cons c w => rw [List.head?_cons, eq_of_fold (Option.some.inj hq) rfl]

/-- Text may follow. -/
theorem append_text (hw : OtherTags w) (ht : '<' ∉ t) : OtherTags (w ++ t) := by
  refine ⟨by rw [List.head?_append, hw.opens]; rfl, fun p hp more => clear_append.mpr ⟨hw.clear p hp _, ?_⟩⟩
  have hfront : ∀ p ∈ titleTags, p.head? = some '<' := by decide
  exact ((heads_dropFold? p).starts (hfront p hp) rfl).clear ht more

/-- More tags may follow. -/
theorem append (hw : OtherTags w) (hw' : OtherTags w') : OtherTags (w ++ w') :=
  ⟨by rw [List.head?_append, hw.opens]; rfl, fun p hp t => clear_append.mpr ⟨hw.clear p hp _, hw'.clear p hp t⟩⟩

/-- No tag of a title starts at its front. -/
theorem dropTag_eq_none (hw : OtherTags w) {p : Text} (hp : p ∈ titleTags) (t : Text) :
    dropFold? p (w ++ t) = none := by
  have hopens := hw.opens
  refine (hw.clear p hp t).eq_none (u := []) rfl fun hnil => ?_
  rw [hnil] at hopens
  cases hopens

/-- No tag goes on at its front. -/
theorem dropFold?_eq_none (hw : OtherTags w) {s : Text} (hs : '<' ∉ s) (hne : s ≠ []) (t : Text) :
    dropFold? s (w ++ t) = none := by
  have hopens := hw.opens
  cases w with
  | nil => cases hopens
  | cons c w =>
    obtain rfl : c = '<' := Option.some.inj hopens
    cases s with
    | nil => exact absurd rfl hne
    | cons a s =>
      have ha : fold '<' ≠ a := fun h => hs (h ▸ List.mem_cons_self)
      rw [List.cons_append, dropFold?, if_neg ha]

/-- They make no difference in front of a page. -/
theorem rawTitle?_append (hw : OtherTags w) (page : Text) : rawTitle? (w ++ page) = rawTitle? page := by
  rw [rawTitle?, rawTitle?, splitFirst?_append (hw.clear _ (by decide) page)]
  cases splitFirst? (dropFold? "<title>".toList) page <;> rfl

end OtherTags

/-! ## Changing tags -/

/-- The text `t'` is `t` with other tags in the place of tags, none of which is one of a title. -/
inductive Retagged : Text → Text → Prop
  | nil : Retagged [] []
  | char (c : Char) {t t' : Text} (h : Retagged t t') : Retagged (c :: t) (c :: t')
  | tags {w w' t t' : Text} (hw : OtherTags w) (hw' : OtherTags w') (h : Retagged t t') :
    Retagged (w ++ t) (w' ++ t')

namespace Retagged

variable {t t' : Text}

theorem append_left (h : Retagged t t') (p : Text) : Retagged (p ++ t) (p ++ t') := by
  induction p with
  | nil => exact h
  | cons c p ih => exact .char c ih

theorem refl (t : Text) : Retagged t t := by
  have h := append_left .nil t
  rwa [List.append_nil] at h

/-- Without a tag there is nothing to change. -/
theorem eq_of_not_mem (h : Retagged t t') (ht : '<' ∉ t) : t' = t := by
  induction h with
  | nil => rfl
  | char c h ih => rw [ih (List.not_mem_of_not_mem_cons ht)]
  | tags hw hw' h ih => exact absurd (List.mem_append_left _ (List.mem_of_mem_head? hw.opens)) ht

/-! ## The same title -/

/-- Of two options that are related, both are there or neither is. -/
theorem none_or_some {α β : Type} {R : α → β → Prop} {x : Option α} {y : Option β} (h : Option.Rel R x y) :
    (x = none ∧ y = none) ∨ ∃ a b, x = some a ∧ y = some b ∧ R a b := by
  cases h with
  | none => exact .inl ⟨rfl, rfl⟩
  | some h => exact .inr ⟨_, _, rfl, rfl, h⟩

/-- A tag goes on in both texts or in none. -/
theorem dropInner (h : Retagged t t') {s : Text} (hs : '<' ∉ s) :
    Option.Rel Retagged (dropFold? s t) (dropFold? s t') := by
  induction h generalizing s with
  | nil =>
    cases s with
    | nil => exact .some .nil
    | cons a s => exact .none
  | char c h ih =>
    cases s with
    | nil => exact .some (.char c h)
    | cons a s =>
      rw [dropFold?, dropFold?]
      split
      · exact ih (List.not_mem_of_not_mem_cons hs)
      · exact .none
  | tags hw hw' h ih =>
    cases s with
    | nil => exact .some (.tags hw hw' h)
    | cons a s =>
      have hne : a :: s ≠ [] := List.cons_ne_nil a s
      rw [hw.dropFold?_eq_none hs hne, hw'.dropFold?_eq_none hs hne]
      exact .none

/-- A tag of a title stands in front of both texts or of none. -/
theorem dropTag (h : Retagged t t') {p : Text} (hp : p ∈ titleTags) :
    Option.Rel Retagged (dropFold? p t) (dropFold? p t') := by
  have hwritten : ∀ p ∈ titleTags, p = '<' :: p.tail ∧ '<' ∉ p.tail := by decide
  obtain ⟨hfront, hinner⟩ := hwritten p hp
  cases h with
  | nil =>
    rw [hfront]
    exact .none
  | char c h =>
    rw [hfront, dropFold?, dropFold?]
    split
    · exact h.dropInner hinner
    · exact .none
  | tags hw hw' h =>
    rw [hw.dropTag_eq_none hp, hw'.dropTag_eq_none hp]
    exact .none

/-- A tag of a title is found in both texts or in none, and what stands in front of it and behind it is retagged. -/
theorem splitFirst? (h : Retagged t t') {p : Text} (hp : p ∈ titleTags) :
    Option.Rel (fun x x' => Retagged x.1 x'.1 ∧ Retagged x.2 x'.2) (splitFirst? (dropFold? p) t)
      (splitFirst? (dropFold? p) t') := by
  induction h with
  | nil =>
    have hne : ∀ p ∈ titleTags, p ≠ [] := by decide
    rw [splitFirst?_nil, dropFold?_nil (hne p hp)]
    exact .none
  | char c h ih =>
    rw [splitFirst?_cons, splitFirst?_cons]
    obtain ⟨hnone, hnone'⟩ | ⟨_, _, hsome, hsome', hrest⟩ := none_or_some ((Retagged.char c h).dropTag hp)
    · rw [hnone, hnone']
      obtain ⟨hlater, hlater'⟩ | ⟨_, _, hlater, hlater', h⟩ := none_or_some ih
      · rw [hlater, hlater']
        exact .none
      · rw [hlater, hlater']
        exact .some ⟨.char c h.1, h.2⟩
    · rw [hsome, hsome']
      exact .some ⟨.nil, hrest⟩
  | tags hw hw' h ih =>
    rw [splitFirst?_append (hw.clear p hp _), splitFirst?_append (hw'.clear p hp _)]
    obtain ⟨hlater, hlater'⟩ | ⟨_, _, hlater, hlater', h⟩ := none_or_some ih
    · rw [hlater, hlater']
      exact .none
    · rw [hlater, hlater']
      exact .some ⟨.tags hw hw' h.1, h.2⟩

/-- Both texts have a title element or neither has, and its text is retagged. -/
theorem rawTitle? (h : Retagged t t') : Option.Rel Retagged (rawTitle? t) (rawTitle? t') := by
  have hopen := h.splitFirst? (p := "<title>".toList) (by decide)
  unfold Html.rawTitle?
  obtain ⟨hnone, hnone'⟩ | ⟨_, _, hsome, hsome', -, hrest⟩ := none_or_some hopen
  · rw [hnone, hnone']
    exact .none
  · rw [hsome, hsome']
    have hclose := hrest.splitFirst? (p := "</title>".toList) (by decide)
    simp only [Option.bind_eq_bind, Option.bind_some]
    obtain ⟨hnone, hnone'⟩ | ⟨_, _, hsome, hsome', hraw, -⟩ := none_or_some hclose
    · rw [hnone, hnone']
      exact .none
    · rw [hsome, hsome']
      exact .some hraw

/-- A title element without a tag in its text stays the first one. -/
theorem rawTitle?_eq (h : Retagged t t') (hraw : ∀ raw, FirstTitle t raw → '<' ∉ raw) :
    Html.rawTitle? t' = Html.rawTitle? t := by
  obtain ⟨hnone, hnone'⟩ | ⟨raw, raw', hsome, hsome', hsame⟩ := none_or_some h.rawTitle?
  · rw [hnone, hnone']
  · rw [hsome, hsome', hsame.eq_of_not_mem (hraw raw (rawTitle?_eq_some_iff.mp hsome))]

end Retagged

end DocViewer.Html
