import DocViewer.Proofs.Html.Tags
import DocViewer.Proofs.Text.Places

/-!
# Cutting the table of contents

The table of contents of a page is the longest stretch from a rule to the end of a list (`longestTable?`).

- `dropContents_of_cut`, `dropContents_of_no_cut`: what is cut goes from the first rule to the last end of a list, if
  that stands behind the rule.
- `replaceAll_longestTable`: replacing every table from left to right cuts no more than this one.
- `dropContents_dropContents`: cutting again changes nothing, though a tag may be made where the ends of the cut meet.
-/

namespace DocViewer.Html

/-- The rule that a table of contents starts with. -/
def rule : Text := "<hr><p>".toList

/-- The end of a list. -/
def listEnd : Text := "</ul>".toList

theorem length_rule : rule.length = 7 := rfl

/-- Something stands between the places that is to be cut: the first rule, and the last end of a list behind it. -/
structure Cut (page : Text) (i j : Nat) : Prop where
  first : FirstAt rule page i
  last : LastAt listEnd page j
  apart : i + 7 ≤ j

/-- The longest table of contents at the front of the text, which nothing replaces, and what follows it. -/
def longestTable? (t : Text) : Option (Text × Text) := do
  let t ← dropFold? rule t
  let (_, after) ← splitLast? (dropFold? listEnd) t
  return ([], after)

theorem longestTable?_shrinks : Shrinks longestTable? := by
  intro t new after h
  simp only [longestTable?, Option.bind_eq_bind, Option.bind_eq_some_iff, Option.pure_def, Option.some.injEq,
    Prod.mk.injEq] at h
  obtain ⟨rest, hrule, ⟨before, after'⟩, hend, -, rfl⟩ := h
  obtain ⟨found, rfl, hfound⟩ := splitLast?_eq_some hend
  have := length_of_dropFold? hrule
  have := length_of_dropFold? hfound
  rw [length_rule] at *
  simp only [List.length_append] at *
  omega

/-! ## The longest table -/

theorem longestTable?_drop {page new after : Text} {k : Nat} : longestTable? (page.drop k) = some (new, after) ↔
    new = [] ∧ TagAt rule page k ∧ ∃ j, LastAt listEnd page j ∧ k + 7 ≤ j ∧ after = page.drop (j + 5) := by
  have hrule : IsPlain rule := by decide
  have hend : IsPlain listEnd := by decide
  simp only [longestTable?, Option.bind_eq_bind, Option.bind_eq_some_iff, Option.pure_def, Option.some.injEq,
    Prod.mk.injEq, dropFold?_drop hrule, Prod.exists, splitLast?_tag hend (List.cons_ne_nil _ _)]
  constructor
  · rintro ⟨rest, ⟨hhere, rfl⟩, before, after', ⟨i, hlast, -, rfl⟩, rfl, rfl⟩
    rw [length_rule] at hlast ⊢
    exact ⟨rfl, hhere, _, lastAt_drop.mp hlast, Nat.le_add_right _ i, by rw [List.drop_drop]; rfl⟩
  · rintro ⟨rfl, hhere, j, hlast, hle, rfl⟩
    obtain ⟨i, rfl⟩ := Nat.exists_eq_add_of_le hle
    refine ⟨_, ⟨hhere, rfl⟩, _, _, ⟨i, lastAt_drop.mpr hlast, rfl, rfl⟩, rfl, ?_⟩
    rw [List.drop_drop]
    rfl

theorem longestTable?_drop_eq_none {page : Text} {k : Nat}
    (h : ∀ j, TagAt rule page k → LastAt listEnd page j → j < k + 7) : longestTable? (page.drop k) = none := by
  refine Option.eq_none_iff_forall_ne_some.mpr fun ⟨new, after⟩ hsome => ?_
  obtain ⟨-, hhere, j, hlast, hle, -⟩ := longestTable?_drop.mp hsome
  exact absurd (h j hhere hlast) (Nat.not_lt.mpr hle)

/-- The front of a text is a table if a rule stands there and a list ends behind it. -/
theorem take_mem_table {t : Text} {n : Nat} :
    n ≤ t.length ∧ t.take n ∈ table ↔ ∃ j, n = j + 5 ∧ TagAt rule t 0 ∧ TagAt listEnd t j ∧ 7 ≤ j := by
  have hrule : IsPlain rule := by decide
  have hend : IsPlain listEnd := by decide
  constructor
  · rintro ⟨hn, hw⟩
    obtain ⟨_, hmul, e, he, hw⟩ := Language.mem_mul.mp hw
    obtain ⟨r, hr, x, -, rfl⟩ := Language.mem_mul.mp hmul
    have hlength := congrArg List.length hw
    have hr7 : r.length = 7 := by rw [← List.length_map (f := fold), hr]; rfl
    have he5 : e.length = 5 := by rw [← List.length_map (f := fold), he]; rfl
    simp only [List.length_append, List.length_take, Nat.min_eq_left hn] at hlength
    have ht : t = r ++ x ++ (e ++ t.drop n) := by rw [← List.append_assoc, hw, List.take_append_drop]
    refine ⟨(r ++ x).length, by rw [List.length_append]; omega, ?_, ?_, by rw [List.length_append]; omega⟩
    · rw [ht, List.append_assoc]
      exact tagAt_of_spelling hrule hr [] _
    · rw [ht]
      exact tagAt_of_spelling hend he _ _
  · rintro ⟨j, rfl, hr, he, hj⟩
    obtain ⟨d, rfl⟩ := Nat.exists_eq_add_of_le hj
    have hsplit : t.take (7 + d + 5) = t.take 7 ++ (t.drop 7).take d ++ (t.drop (7 + d)).take 5 := by
      rw [List.take_add, List.take_add]
    refine ⟨he.le_length (List.cons_ne_nil _ _), hsplit ▸ ?_⟩
    refine Language.append_mem_mul (Language.append_mem_mul ?_ trivial) ((map_fold_eq_iff hend).mpr he)
    exact (map_fold_eq_iff hrule).mpr hr

/-- The longest table is found. -/
theorem longestTable?_eq_some {t new after : Text} : longestTable? t = some (new, after) ↔
    new = [] ∧ ∃ w ∈ table, t = w ++ after ∧ ∀ w' ∈ table, w' <+: t → w' <+: w := by
  have hplace : longestTable? (t.drop 0) = some (new, after) ↔ _ := longestTable?_drop
  rw [List.drop_zero, Nat.zero_add] at hplace
  rw [hplace]
  constructor
  · rintro ⟨rfl, hr, j, hlast, hj, rfl⟩
    have hw := take_mem_table.mpr ⟨j, rfl, hr, hlast.here, hj⟩
    refine ⟨rfl, _, hw.2, (List.take_append_drop _ t).symm, fun w' hw' hfront => ?_⟩
    rw [List.prefix_iff_eq_take.mp hfront] at hw' ⊢
    obtain ⟨l, hl, -, hend, -⟩ := take_mem_table.mp ⟨hfront.length_le, hw'⟩
    have hle : ¬l > j := fun hlt => hlast.last l hlt hend
    exact List.take_prefix_take_left (by omega)
  · rintro ⟨rfl, w, hw, ht, hlongest⟩
    have hfront : w <+: t := ⟨after, ht.symm⟩
    rw [List.prefix_iff_eq_take.mp hfront] at hw
    obtain ⟨j, hj, hr, hend, h7⟩ := take_mem_table.mp ⟨hfront.length_le, hw⟩
    refine ⟨rfl, hr, j, ⟨hend, fun k hk hat => ?_⟩, h7, by rw [← hj, ht, List.drop_left]⟩
    -- a list that ends further behind makes a longer table
    have hlonger := take_mem_table.mpr ⟨k, rfl, hr, hat, by omega⟩
    have hle := (hlongest _ hlonger.2 (List.take_prefix _ t)).length_le
    rw [List.length_take, Nat.min_eq_left hlonger.1] at hle
    omega

/-! ## What is cut -/

theorem dropContents_of_cut {page : Text} {i j : Nat} (h : Cut page i j) :
    dropContents page = page.take i ++ page.drop (j + 5) := by
  obtain ⟨hfirst, hlast, hle⟩ := h
  obtain ⟨d, rfl⟩ := Nat.exists_eq_add_of_le hle
  have hrule : splitFirst? (dropFold? "<hr><p>".toList) page = some (page.take i, page.drop (i + 7)) :=
    (splitFirst?_tag (by decide) (List.cons_ne_nil _ _)).mpr ⟨i, hfirst, rfl, rfl⟩
  have hend : splitLast? (dropFold? "</ul>".toList) (page.drop (i + 7)) =
      some ((page.drop (i + 7)).take d, (page.drop (i + 7)).drop (d + 5)) :=
    (splitLast?_tag (by decide) (List.cons_ne_nil _ _)).mpr ⟨d, lastAt_drop.mpr hlast, rfl, rfl⟩
  rw [dropContents, hrule]
  simp only [hend, List.drop_drop, Nat.add_assoc]

theorem dropContents_of_no_cut {page : Text} (h : ∀ i j, ¬Cut page i j) : dropContents page = page := by
  unfold dropContents
  split
  · rfl
  · rename_i before rest hrule
    obtain ⟨i, hfirst, -, rfl⟩ := (splitFirst?_tag (by decide) (List.cons_ne_nil _ _)).mp hrule
    split
    · rfl
    · rename_i middle after hend
      obtain ⟨d, hlast, -⟩ := (splitLast?_tag (by decide) (List.cons_ne_nil _ _)).mp hend
      exact absurd ⟨hfirst, lastAt_drop.mp hlast, Nat.le_add_right _ d⟩ (h i _)

/-! ## Nothing else is cut -/

/-- A rule with an end of a list behind it makes a cut. -/
theorem exists_cut {page : Text} {k j : Nat} (hrule : TagAt rule page k) (hlast : LastAt listEnd page j)
    (hle : k + 7 ≤ j) : ∃ i, Cut page i j := by
  obtain ⟨i, hik, hfirst⟩ := hrule.exists_firstAt
  exact ⟨i, hfirst, hlast, by omega⟩

/-- There is nothing more to cut in front of what was cut or behind it, nor where these meet. -/
theorem not_cut_of_cut {page : Text} {i j : Nat} (h : Cut page i j) (k l : Nat) :
    ¬Cut (page.take i ++ page.drop (j + 5)) k l := by
  rintro ⟨⟨hrule, -⟩, ⟨hend, -⟩, hkl⟩
  have hlength : (page.take i).length = i := by
    have := h.first.here.le_length (List.cons_ne_nil _ _)
    rw [List.length_take]
    omega
  by_cases hl : i ≤ l
  · -- behind the cut no list ends
    obtain ⟨d, rfl⟩ := Nat.exists_eq_add_of_le hl
    rw [tagAt_append_right hlength, tagAt_drop] at hend
    exact h.last.last _ (by omega) hend
  · -- a list that ends in front of the cut, or starts to end there, has no rule before it
    have hk : k + rule.length ≤ (page.take i).length := by
      rw [length_rule]
      omega
    rw [tagAt_append hk] at hrule
    refine h.first.first k (by omega) ?_
    rw [← List.take_append_drop i page]
    exact (tagAt_append hk _).mpr hrule

theorem cut_or (page : Text) : (∃ i j, Cut page i j) ∨ ∀ i j, ¬Cut page i j := by
  by_cases h : ∃ i j, Cut page i j
  · exact .inl h
  · exact .inr fun i j hcut => h ⟨i, j, hcut⟩

theorem dropContents_dropContents (page : Text) : dropContents (dropContents page) = dropContents page := by
  obtain ⟨i, j, hcut⟩ | hno := cut_or page
  · rw [dropContents_of_cut hcut, dropContents_of_no_cut (not_cut_of_cut hcut)]
  · rw [dropContents_of_no_cut hno, dropContents_of_no_cut hno]

theorem replaceAll_longestTable (page : Text) :
    replaceAll longestTable? longestTable?_shrinks page = dropContents page := by
  obtain ⟨i, j, hcut⟩ | hno := cut_or page
  · have hbefore : Clear longestTable? (page.take i) (page.drop i) :=
      clear_take fun k hk => longestTable?_drop_eq_none fun j hrule => absurd hrule (hcut.first.first k hk)
    have hhere : longestTable? (page.drop i) = some ([], page.drop (j + 5)) :=
      longestTable?_drop.mpr ⟨rfl, hcut.first.here, j, hcut.last, hcut.apart, rfl⟩
    have hbehind : ∀ k, longestTable? ((page.drop (j + 5)).drop k) = none := by
      intro k
      rw [List.drop_drop]
      refine longestTable?_drop_eq_none fun l _ hlast => ?_
      by_contra hle
      exact hcut.last.last l (by omega) hlast.here
    rw [dropContents_of_cut hcut]
    conv_lhs => rw [← List.take_append_drop i page]
    rw [replaceAll_append _ hbefore, replaceAll_of_some _ hhere, replaceAll_eq_self _ hbehind, List.nil_append]
  · rw [dropContents_of_no_cut hno]
    refine replaceAll_eq_self _ fun k => longestTable?_drop_eq_none fun j hrule hlast => ?_
    by_contra hle
    obtain ⟨i, hcut⟩ := exists_cut hrule hlast (Nat.not_lt.mp hle)
    exact hno i j hcut

/-- **Cutting the table of contents.** The page is cut from its first rule to its last end of a list, if that stands
behind the rule, and stays as it is otherwise. To replace every table, each as long as possible, from left to right is
to make this one cut; after it there is nothing more to cut. -/
theorem dropContents_cuts_once (page : Text) :
    (∀ i j, Cut page i j → dropContents page = page.take i ++ page.drop (j + 5)) ∧
    ((∀ i j, ¬Cut page i j) → dropContents page = page) ∧
    replaceAll longestTable? longestTable?_shrinks page = dropContents page ∧
    (∀ t new after, longestTable? t = some (new, after) ↔
      new = [] ∧ ∃ w ∈ table, t = w ++ after ∧ ∀ w' ∈ table, w' <+: t → w' <+: w) ∧
    dropContents (dropContents page) = dropContents page :=
  ⟨fun _ _ => dropContents_of_cut, dropContents_of_no_cut, replaceAll_longestTable page,
    fun _ _ _ => longestTable?_eq_some, dropContents_dropContents page⟩

/-- A list ends in front of the cut, rules and lists stand in it, and a rule is made where its ends meet. -/
theorem dropContents_cuts_once_seam :
    Cut "</ul>.<h<HR><p></ul><hr><P>.</UL>r><p></u".toList 8 28 ∧
    dropContents "</ul>.<h<HR><p></ul><hr><P>.</UL>r><p></u".toList = "</ul>.<hr><p></u".toList ∧
    dropContents "</ul>.<hr><p></u".toList = "</ul>.<hr><p></u".toList := by
  have hcut : Cut "</ul>.<h<HR><p></ul><hr><P>.</UL>r><p></u".toList 8 28 :=
    ⟨⟨by decide, by decide⟩, (lastAt_iff (List.cons_ne_nil _ _)).mpr (by decide), by decide⟩
  obtain ⟨hcuts, -, -, -, hagain⟩ := dropContents_cuts_once "</ul>.<h<HR><p></ul><hr><P>.</UL>r><p></u".toList
  have hleft := hcuts 8 28 hcut
  rw [hleft] at hagain
  exact ⟨hcut, hleft, hagain⟩

end DocViewer.Html
