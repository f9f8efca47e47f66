import DocViewer.Html.Contents
import DocViewer.Proofs.Text.Spelling
import Mathlib.Data.List.TakeWhile

/-!
# The tags of the table of contents

The tags by which `tidy` finds its way, as languages: `sectionTag` and `topTag` open the links to the table of contents,
`topLink` is the whole link of the first line, and `table` the stretch from a rule to the end of a list.

A tag ends at the first `>` behind its `<` (`IsTag`). A text in which every `<` has a `>` behind it is `Closed`, and so
a tag that starts in it ends in it (`Closed.tag_within`), whatever follows. In a closed text that is free of some tags,
no match of these tags starts (`Closed.clear`). No tag stands in another one (`IsTag.eq_of_append`).
-/

namespace DocViewer.Html

variable {α : Type} {m : Text → Option α} {L : Language Char}

/-! ## The grammar -/

/-- The quotes, single and double. -/
def quote : Language Char := {['\''], ['"']}

/-- Numbers: decimal digits of any script, at least one. -/
def number : Language Char := {w | w ≠ [] ∧ ∀ c ∈ w, isDecimal c = true}

/-- The tags that open the heading of a section, `<a name='sect1' href='#toc1'>`. -/
def sectionTag : Language Char :=
  spellings "<a name=".toList *
    (quote * spellings "sect".toList * number * quote * spellings " href=".toList * quote * spellings "#toc".toList *
      number * quote) *
    spellings ">".toList

/-- The tags that open a link to the table of contents, `<a href='#toc'>`. -/
def topTag : Language Char :=
  spellings "<a href=".toList * (quote * spellings "#toc".toList * quote) * spellings ">".toList

/-- The links to the table of contents. -/
def topLink : Language Char := topTag * spellings "table of contents</a><p>".toList

/-- The tables of contents, with anything in them. -/
def table : Language Char := spellings "<hr><p>".toList * ⊤ * spellings "</ul>".toList

/-! ## The grammar is what the matchers take off -/

theorem drops_dropQuote? : Drops dropQuote? quote := by
  intro t rest
  constructor
  · intro h
    unfold dropQuote? at h
    split at h
    · exact ⟨['\''], .inl rfl, by rw [Option.some.inj h]; rfl⟩
    · exact ⟨['"'], .inr rfl, by rw [Option.some.inj h]; rfl⟩
    · cases h
  · rintro ⟨_, rfl | rfl, rfl⟩ <;> rfl

/-- Digits are taken off as far as they go, so they are those of a number if a quote follows. -/
theorem drops_number_quote : Drops (fun t => (dropDecimals? t).bind dropQuote?) (number * quote) := by
  intro t rest
  rw [Option.bind_eq_some_iff]
  constructor
  · rintro ⟨t', ht, hrest⟩
    obtain ⟨q, hq, rfl⟩ := (drops_dropQuote? _ _).mp hrest
    cases t with
    | nil => cases ht
    | cons c t =>
      obtain ⟨hc, ht⟩ := Option.ite_none_right_eq_some.mp ht
      refine ⟨_, Language.append_mem_mul (a := c :: t.takeWhile isDecimal) ⟨List.cons_ne_nil _ _, ?_⟩ hq, ?_⟩
      · exact List.forall_mem_cons.mpr ⟨hc, fun d hd => List.mem_takeWhile_imp hd⟩
      · rw [List.append_assoc, ← Option.some.inj ht, List.cons_append, List.takeWhile_append_dropWhile]
  · rintro ⟨_, hmul, rfl⟩
    obtain ⟨n, ⟨hne, hall⟩, q, hq, rfl⟩ := Language.mem_mul.mp hmul
    obtain ⟨c, n, rfl⟩ := List.exists_cons_of_ne_nil hne
    obtain ⟨hc, hn⟩ := List.forall_mem_cons.mp hall
    refine ⟨q ++ rest, ?_, (drops_dropQuote? _ _).mpr ⟨q, hq, rfl⟩⟩
    have hstop : (q ++ rest).dropWhile isDecimal = q ++ rest := by
      rcases hq with rfl | rfl <;> exact List.dropWhile_cons_of_neg (by decide)
    rw [List.append_assoc, List.cons_append, dropDecimals?, if_pos hc, List.dropWhile_append_of_pos hn, hstop]

theorem toc_infix_sectionTag {w : Text} (hw : w ∈ sectionTag) : ∃ a ∈ spellings "#toc".toList, a <:+: w := by
  obtain ⟨v, hv, hvw⟩ := exists_inside hw
  rw [mul_assoc] at hv
  obtain ⟨a, ha, hav⟩ := exists_inside hv
  exact ⟨a, ha, hav.trans hvw⟩

theorem toc_infix_topTag {w : Text} (hw : w ∈ topTag) : ∃ a ∈ spellings "#toc".toList, a <:+: w := by
  obtain ⟨v, hv, hvw⟩ := exists_inside hw
  obtain ⟨a, ha, hav⟩ := exists_inside hv
  exact ⟨a, ha, hav.trans hvw⟩

theorem drops_dropSectionTag? : Drops dropSectionTag? sectionTag := by
  have hdrops := (drops_dropFold? "<a name=".toList).bind <| drops_dropQuote?.bind <|
    (drops_dropFold? "sect".toList).bind <| drops_number_quote.bind <| (drops_dropFold? " href=".toList).bind <|
    drops_dropQuote?.bind <| (drops_dropFold? "#toc".toList).bind <| drops_number_quote.bind <|
    drops_dropFold? ">".toList
  simp only [Option.bind_assoc, mul_assoc] at hdrops
  simp only [sectionTag, mul_assoc]
  exact hdrops

theorem drops_dropTopLink? : Drops dropTopLink? topLink := by
  have hdrops := (drops_dropFold? "<a href=".toList).bind <| drops_dropQuote?.bind <|
    (drops_dropFold? "#toc".toList).bind <| drops_dropQuote?.bind <|
    drops_dropFold? ">table of contents</a><p>".toList
  have hlast : spellings ">table of contents</a><p>".toList =
      spellings ">".toList * spellings "table of contents</a><p>".toList := spellings_append [_] _
  rw [hlast] at hdrops
  simp only [topLink, topTag, mul_assoc]
  exact hdrops

/-! ## Tags end where they close -/

/-- A tag: nothing between its brackets is a bracket. -/
def IsTag (w : Text) : Prop := ∃ body, w = '<' :: (body ++ ['>']) ∧ '<' ∉ body ∧ '>' ∉ body

/-- Every `<` has a `>` behind it. -/
def Closed : Text → Prop
  | [] => True
  | c :: t => (c = '<' → '>' ∈ t) ∧ Closed t

instance Closed.decidable : (t : Text) → Decidable (Closed t)
  | [] => isTrue trivial
  | c :: t =>
    have := Closed.decidable t
    inferInstanceAs (Decidable ((c = '<' → '>' ∈ t) ∧ Closed t))

/-- No word of the language has a bracket. -/
def Inner (L : Language Char) : Prop := ∀ w ∈ L, '<' ∉ w ∧ '>' ∉ w

theorem inner_spellings {p : Text} (hopen : '<' ∉ p) (hclose : '>' ∉ p) : Inner (spellings p) := by
  rintro w rfl
  exact ⟨fun h => hopen (List.mem_map_of_mem (f := fold) h), fun h => hclose (List.mem_map_of_mem (f := fold) h)⟩

theorem inner_quote : Inner quote := by
  rintro w (rfl | rfl) <;> exact ⟨by decide, by decide⟩

theorem inner_number : Inner number := by
  rintro w ⟨-, hall⟩
  exact ⟨fun h => absurd (hall _ h) (by decide), fun h => absurd (hall _ h) (by decide)⟩

theorem Inner.mul {L L' : Language Char} (h : Inner L) (h' : Inner L') : Inner (L * L') := by
  intro w hw
  obtain ⟨a, ha, b, hb, rfl⟩ := Language.mem_mul.mp hw
  exact ⟨fun hmem => (List.mem_append.mp hmem).elim (h a ha).1 (h' b hb).1,
    fun hmem => (List.mem_append.mp hmem).elim (h a ha).2 (h' b hb).2⟩

/-- A bracket is spelled in one way only. -/
theorem spelling_bracket {a : Char} (ha : a.isAlpha = false) {w : Text} (hw : w ∈ spellings [a]) : w = [a] := by
  obtain ⟨c, rfl, hc⟩ := List.map_eq_singleton_iff.mp hw
  rw [eq_of_fold hc ha]

/-- What is put between brackets is a tag. -/
theorem isTag_of_mem {p : Text} {L : Language Char} (hopen : '<' ∉ p) (hclose : '>' ∉ p) (hL : Inner L) {w : Text}
    (hw : w ∈ spellings ('<' :: p) * L * spellings ">".toList) : IsTag w := by
  have hsplit : spellings ('<' :: p) = spellings ['<'] * spellings p := spellings_append ['<'] p
  rw [hsplit, mul_assoc (spellings ['<'])] at hw
  obtain ⟨_, hmul, z, hz, rfl⟩ := Language.mem_mul.mp hw
  obtain ⟨a, ha, body, hbody, rfl⟩ := Language.mem_mul.mp hmul
  obtain rfl := spelling_bracket rfl ha
  obtain rfl := spelling_bracket rfl hz
  have hinner := (inner_spellings hopen hclose).mul hL _ hbody
  exact ⟨body, rfl, hinner.1, hinner.2⟩

/-- A literal that is a tag is a tag in any case. -/
theorem isTag_spelling {p : Text} (hopen : '<' ∉ p) (hclose : '>' ∉ p) {w : Text}
    (hw : w ∈ spellings ('<' :: (p ++ ['>']))) : IsTag w := by
  refine isTag_of_mem hopen hclose (L := 1) (fun w (hnil : w = []) => hnil ▸ ⟨by simp, by simp⟩) ?_
  rwa [mul_one, ← spellings_append]

theorem isTag_sectionTag {w : Text} (hw : w ∈ sectionTag) : IsTag w := by
  refine isTag_of_mem (p := "a name=".toList) (by decide) (by decide) ?_ hw
  have hsect := inner_spellings (p := "sect".toList) (by decide) (by decide)
  have hhref := inner_spellings (p := " href=".toList) (by decide) (by decide)
  have htoc := inner_spellings (p := "#toc".toList) (by decide) (by decide)
  have hname := ((inner_quote.mul hsect).mul inner_number).mul inner_quote
  exact ((((hname.mul hhref).mul inner_quote).mul htoc).mul inner_number).mul inner_quote

theorem not_nil_mem_sectionTag : [] ∉ sectionTag := fun h => by
  obtain ⟨body, hbody, -⟩ := isTag_sectionTag h
  cases hbody

theorem isTag_topTag {w : Text} (hw : w ∈ topTag) : IsTag w := by
  refine isTag_of_mem (p := "a href=".toList) (by decide) (by decide) ?_ hw
  have htoc := inner_spellings (p := "#toc".toList) (by decide) (by decide)
  exact (inner_quote.mul htoc).mul inner_quote

/-- A tag that stands in a tag is that tag. -/
theorem IsTag.eq_of_append {u v w x : Text} (hv : IsTag v) (hw : IsTag w) (h : v = u ++ (w ++ x)) :
    u = [] ∧ x = [] := by
  obtain ⟨body, rfl, hopen, hclose⟩ := hv
  obtain ⟨body', rfl, -, -⟩ := hw
  cases u with
  | cons c u =>
    have htail : body ++ ['>'] = u ++ ('<' :: (body' ++ ['>']) ++ x) := (List.cons.inj h).2
    have hmem : '<' ∈ body ++ ['>'] := htail ▸ by simp
    simp [hopen] at hmem
  | nil =>
    obtain rfl | ⟨x, last, rfl⟩ := List.eq_nil_or_concat x
    · exact ⟨rfl, rfl⟩
    · have htail : body ++ ['>'] = (body' ++ ['>'] ++ x) ++ [last] := by simpa using h
      obtain ⟨rfl, -⟩ := List.append_inj' htail rfl
      simp at hclose

/-- A tag that starts in a closed text ends in it. -/
theorem Closed.tag_within {p t w rest : Text} (hp : Closed p) (hne : p ≠ []) (hw : IsTag w) (h : p ++ t = w ++ rest) :
    ∃ p', p = w ++ p' ∧ p' ++ t = rest := by
  obtain ⟨body, rfl, -, hbody⟩ := hw
  obtain ⟨c, p, rfl⟩ := List.exists_cons_of_ne_nil hne
  simp only [List.cons_append, List.cons.injEq] at h ⊢
  obtain ⟨rfl, h⟩ := h
  obtain ⟨more, hmore, -⟩ | ⟨p', rfl, hrest⟩ := List.append_eq_append_iff.mp h
  · -- the `>` of the text is in the tag, where it is the last character
    obtain rfl | ⟨body', last, rfl⟩ := List.eq_nil_or_concat more
    · rw [List.append_nil] at hmore
      exact ⟨[], by simp [hmore], by simpa [hmore] using h⟩
    · rw [List.concat_eq_append, ← List.append_assoc] at hmore
      obtain ⟨rfl, -⟩ := List.append_inj' hmore rfl
      exact absurd (List.mem_append_left body' (hp.1 rfl)) hbody
  · exact ⟨p', ⟨rfl, rfl⟩, hrest.symm⟩

/-- The end of a closed text is closed. -/
theorem Closed.right {p q : Text} (h : Closed (p ++ q)) : Closed q := by
  induction p with
  | nil => exact h
  | cons c p ih => exact ih h.2

/-- No match of some tags starts in a closed text that is free of them, whatever follows. -/
theorem Closed.clear (hm : Heads L m) (hL : ∀ w ∈ L, IsTag w) {p : Text} (hp : Closed p) (hfree : Free L p)
    (t : Text) : Clear m p t := by
  induction p with
  | nil => trivial
  | cons c p ih =>
    refine ⟨Option.eq_none_iff_forall_ne_some.mpr fun a ha => ?_, ih hp.2 (Free.tail hfree)⟩
    obtain ⟨w, hw, rest, hrest⟩ := hm _ _ ha
    obtain ⟨p', hp', -⟩ := hp.tag_within (List.cons_ne_nil c p) (hL w hw) hrest.symm
    exact hfree w hw (hp' ▸ (w.prefix_append p').isInfix)

/-- No match of one tag starts in another, whatever follows. -/
theorem IsTag.clear {p q : Text} (hm : Heads (spellings p) m) (hp : p.head? = some '<') (h : Apart p q) {a b : Text}
    (ha : a ∈ spellings q) (htag : IsTag (a ++ b)) (t : Text) : Clear m (a ++ b) t := by
  obtain ⟨body, hbody, hno, -⟩ := htag
  have hrest : '<' ∉ body ++ ['>'] := by simpa using hno
  rw [hbody]
  refine ⟨?_, (hm.starts hp rfl).clear hrest t⟩
  rw [← List.cons_append, ← hbody, List.append_assoc]
  exact hm.eq_none h ha _

end DocViewer.Html
