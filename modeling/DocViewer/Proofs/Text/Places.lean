import DocViewer.Proofs.Text.Searching
import Mathlib.Data.Nat.Find

/-!
# Places of tags

`TagAt tag t i` says that the tag stands at place `i` of the text, in any case of its letters. A search from the front
gives the first place (`splitFirst?_tag`) and a search from the back the last one (`splitLast?_tag`), each with what
stands in front of the tag and what follows it.

Tags are written in lower case and without `s`, for which the long s may stand as well (`map_fold_eq_iff`).
-/

namespace DocViewer

/-! ## Searching by place -/

section Search

variable {α : Type} {m : Text → Option α}

/-- What is found first, by its place. -/
theorem splitFirst?_eq_some_iff (hnil : m [] = none) {t before : Text} {a : α} :
    splitFirst? m t = some (before, a) ↔
      ∃ i, before = t.take i ∧ m (t.drop i) = some a ∧ ∀ k < i, m (t.drop k) = none := by
  induction t generalizing before with
  | nil => simp [splitFirst?_nil, hnil]
  | cons c t ih =>
    rw [splitFirst?_cons]
    constructor
    · intro h
      cases hhere : m (c :: t) with
      | some b =>
        rw [hhere] at h
        cases h
        exact ⟨0, rfl, hhere, fun k hk => absurd hk (Nat.not_lt_zero k)⟩
      | none =>
        rw [hhere] at h
        obtain ⟨⟨before', b⟩, hfirst, heq⟩ := Option.map_eq_some_iff.mp h
        cases heq
        obtain ⟨i, rfl, hi, hbefore⟩ := ih.mp hfirst
        refine ⟨i + 1, rfl, hi, fun k hk => ?_⟩
        cases k with
        | zero => exact hhere
        | succ k => exact hbefore k (Nat.lt_of_succ_lt_succ hk)
    · rintro ⟨i, rfl, hi, hbefore⟩
      cases i with
      | zero =>
        rw [List.drop_zero] at hi
        rw [hi]
        rfl
      | succ i =>
        have hhere : m (c :: t) = none := hbefore 0 (Nat.succ_pos i)
        have hfirst : splitFirst? m t = some (t.take i, a) :=
          ih.mpr ⟨i, rfl, hi, fun k hk => hbefore (k + 1) (Nat.succ_lt_succ hk)⟩
        rw [hhere, hfirst]
        rfl

/-- Where nothing is found last, nothing is found at any place. -/
theorem splitLast?_eq_none_iff (hnil : m [] = none) {t : Text} :
    splitLast? m t = none ↔ ∀ k, m (t.drop k) = none := by
  constructor
  · intro h k
    refine Option.eq_none_iff_forall_ne_some.mpr fun b hb => ?_
    obtain ⟨last, b', hlast, -⟩ := splitLast?_of_found hb (t.take k)
    rw [List.take_append_drop, h] at hlast
    cases hlast
  · intro h
    refine splitLast?_eq_none (clear_of_eq_none fun u c v ht => ?_) hnil
    rw [List.append_nil]
    have hplace := h u.length
    rwa [ht, List.drop_left] at hplace

/-- What is found last, by its place. -/
theorem splitLast?_eq_some_iff (hnil : m [] = none) {t before : Text} {a : α} :
    splitLast? m t = some (before, a) ↔
      ∃ i, before = t.take i ∧ m (t.drop i) = some a ∧ ∀ k > i, m (t.drop k) = none := by
  induction t generalizing before with
  | nil => simp [splitLast?_nil, hnil]
  | cons c t ih =>
    rw [splitLast?_cons, Option.or_eq_some_iff]
    constructor
    · rintro (h | ⟨hbehind, h⟩)
      · obtain ⟨⟨before', b⟩, hlast, heq⟩ := Option.map_eq_some_iff.mp h
        cases heq
        obtain ⟨i, rfl, hi, hbehind⟩ := ih.mp hlast
        refine ⟨i + 1, rfl, hi, fun k hk => ?_⟩
        obtain ⟨k, rfl⟩ := Nat.exists_eq_succ_of_ne_zero (Nat.ne_of_gt (Nat.zero_lt_of_lt hk))
        exact hbehind k (Nat.lt_of_succ_lt_succ hk)
      · obtain ⟨b, hhere, heq⟩ := Option.map_eq_some_iff.mp h
        cases heq
        rw [Option.map_eq_none_iff, splitLast?_eq_none_iff hnil] at hbehind
        refine ⟨0, rfl, hhere, fun k hk => ?_⟩
        obtain ⟨k, rfl⟩ := Nat.exists_eq_succ_of_ne_zero (Nat.ne_of_gt hk)
        exact hbehind k
    · rintro ⟨i, rfl, hi, hbehind⟩
      cases i with
      | zero =>
        have hnone : splitLast? m t = none :=
          (splitLast?_eq_none_iff hnil).mpr fun k => hbehind (k + 1) (Nat.succ_pos k)
        rw [List.drop_zero] at hi
        exact .inr ⟨by rw [hnone]; rfl, by rw [hi]; rfl⟩
      | succ i =>
        have hlast : splitLast? m t = some (t.take i, a) :=
          ih.mpr ⟨i, rfl, hi, fun k hk => hbehind (k + 1) (Nat.succ_lt_succ hk)⟩
        exact .inl (by rw [hlast]; rfl)

/-- No match starts in what stands in front of a place if there is none at the places there. -/
theorem clear_take {t : Text} {i : Nat} (h : ∀ k < i, m (t.drop k) = none) : Clear m (t.take i) (t.drop i) := by
  induction i generalizing t with
  | zero => exact trivial
  | succ i ih =>
    cases t with
    | nil => exact trivial
    | cons c t =>
      refine ⟨?_, ih fun k hk => h (k + 1) (Nat.succ_lt_succ hk)⟩
      rw [List.drop_succ_cons, List.take_append_drop]
      exact h 0 (Nat.succ_pos i)

/-- A text stays as it is if there is no match at any place. -/
theorem replaceAll_eq_self {m : Text → Option (Text × Text)} (shrinks : Shrinks m) {t : Text}
    (h : ∀ k, m (t.drop k) = none) : replaceAll m shrinks t = t := by
  induction t with
  | nil => exact replaceAll_nil m shrinks
  | cons c t ih =>
    have hhere : m (c :: t) = none := h 0
    rw [replaceAll_cons, hhere, ih fun k => h (k + 1)]

end Search

/-! ## Tags -/

/-- The tag stands at place `i` of the text, in any case of its letters. -/
def TagAt (tag t : Text) (i : Nat) : Prop := ((t.drop i).take tag.length).map Char.toLower = tag

instance (tag t : Text) (i : Nat) : Decidable (TagAt tag t i) := inferInstanceAs (Decidable (_ = _))

/-- The tag stands at place `i` of the text, and nowhere in front of it. -/
structure FirstAt (tag t : Text) (i : Nat) : Prop where
  here : TagAt tag t i
  first : ∀ k < i, ¬TagAt tag t k

/-- The tag stands at place `i` of the text, and nowhere behind it. -/
structure LastAt (tag t : Text) (i : Nat) : Prop where
  here : TagAt tag t i
  last : ∀ k > i, ¬TagAt tag t k

/-- A literal for which only its own letters stand, small or capital. -/
def IsPlain (tag : Text) : Prop := ∀ a ∈ tag, a ≠ 's' ∧ a ≠ '\u017f'

instance (tag : Text) : Decidable (IsPlain tag) := List.decidableBAll _ tag

theorem fold_eq_iff {a : Char} (h : a ≠ 's' ∧ a ≠ '\u017f') {c : Char} : fold c = a ↔ c.toLower = a := by
  unfold fold
  split
  · rename_i hc
    subst hc
    exact ⟨fun hs => absurd hs.symm h.1, fun hlong => absurd hlong.symm h.2⟩
  · rfl

/-- The spellings of a plain literal are those in small and capital letters. -/
theorem map_fold_eq_iff {tag w : Text} (h : IsPlain tag) : w.map fold = tag ↔ w.map Char.toLower = tag := by
  induction w generalizing tag with
  | nil => rfl
  | cons c w ih =>
    cases tag with
    | nil => simp
    | cons a tag =>
      have h' : IsPlain tag := fun b hb => h b (List.mem_cons_of_mem _ hb)
      rw [List.map_cons, List.map_cons, List.cons.injEq, List.cons.injEq, fold_eq_iff (h a List.mem_cons_self), ih h']

theorem tagAt_drop {tag t : Text} {n i : Nat} : TagAt tag (t.drop n) i ↔ TagAt tag t (n + i) := by
  rw [TagAt, List.drop_drop, TagAt]

theorem lastAt_drop {tag t : Text} {n i : Nat} : LastAt tag (t.drop n) i ↔ LastAt tag t (n + i) := by
  constructor
  · rintro ⟨hhere, hlast⟩
    refine ⟨tagAt_drop.mp hhere, fun k hk hat => ?_⟩
    obtain ⟨d, rfl⟩ := Nat.exists_eq_add_of_lt hk
    refine hlast (i + d + 1) (by omega) (tagAt_drop.mpr ?_)
    rwa [← Nat.add_assoc, ← Nat.add_assoc]
  · rintro ⟨hhere, hlast⟩
    exact ⟨tagAt_drop.mpr hhere, fun k hk hat => hlast (n + k) (by omega) (tagAt_drop.mp hat)⟩

/-- A tag ends where the text does, or in front of that. -/
theorem TagAt.le_length {tag t : Text} {i : Nat} (h : TagAt tag t i) (hne : tag ≠ []) :
    i + tag.length ≤ t.length := by
  have hlength := congrArg List.length h
  rw [List.length_map, List.length_take, List.length_drop] at hlength
  have := List.length_pos_iff.mpr hne
  omega

/-- Whether a tag stands at a place is settled by the text up to its end. -/
theorem tagAt_append {tag p : Text} {i : Nat} (h : i + tag.length ≤ p.length) (t : Text) :
    TagAt tag (p ++ t) i ↔ TagAt tag p i := by
  have hlength : tag.length ≤ (p.drop i).length := by rw [List.length_drop]; omega
  rw [TagAt, TagAt, List.drop_append_of_le_length (by omega), List.take_append_of_le_length hlength]

theorem tagAt_append_right {tag p : Text} {n : Nat} (h : p.length = n) {t : Text} {i : Nat} :
    TagAt tag (p ++ t) (n + i) ↔ TagAt tag t i := by
  rw [TagAt, TagAt, List.drop_append, List.drop_of_length_le (by omega), h, Nat.add_sub_cancel_left, List.nil_append]

/-- That a tag stands nowhere behind a place is settled by the places of the text. -/
theorem lastAt_iff {tag t : Text} {i : Nat} (hne : tag ≠ []) :
    LastAt tag t i ↔ TagAt tag t i ∧ ∀ k < t.length, i < k → ¬TagAt tag t k := by
  constructor
  · rintro ⟨hhere, hlast⟩
    exact ⟨hhere, fun k _ hk => hlast k hk⟩
  · rintro ⟨hhere, hlast⟩
    refine ⟨hhere, fun k hk hat => hlast k ?_ hk hat⟩
    have := hat.le_length hne
    have := List.length_pos_iff.mpr hne
    omega

/-- Of the places of a tag one is the first. -/
theorem TagAt.exists_firstAt {tag t : Text} {k : Nat} (h : TagAt tag t k) : ∃ i ≤ k, FirstAt tag t i := by
  have hex : ∃ i, TagAt tag t i := ⟨k, h⟩
  exact ⟨Nat.find hex, Nat.find_min' hex h, Nat.find_spec hex, fun i hi => Nat.find_min hex hi⟩

/-- The first place of a tag is settled by the text up to its end. -/
theorem FirstAt.take {tag t : Text} {i : Nat} (h : FirstAt tag t i) (hne : tag ≠ []) (more : Text) :
    FirstAt tag (t.take (i + tag.length) ++ more) i := by
  have hlength : (t.take (i + tag.length)).length = i + tag.length := List.length_take_of_le (h.here.le_length hne)
  have hsame : ∀ k ≤ i, TagAt tag (t.take (i + tag.length) ++ more) k ↔ TagAt tag t k := by
    intro k hk
    have hend : k + tag.length ≤ (t.take (i + tag.length)).length := by omega
    conv_rhs => rw [← List.take_append_drop (i + tag.length) t]
    rw [tagAt_append hend, tagAt_append hend]
  exact ⟨(hsame i le_rfl).mpr h.here, fun k hk hat => h.first k hk ((hsame k (Nat.le_of_lt hk)).mp hat)⟩

/-- A spelling of a tag stands behind what is in front of it. -/
theorem tagAt_of_spelling {tag w : Text} (h : IsPlain tag) (hw : w.map fold = tag) (before after : Text) :
    TagAt tag (before ++ (w ++ after)) before.length := by
  have hlength : w.length = tag.length := by rw [← hw, List.length_map]
  rw [TagAt, List.drop_left, List.take_left' hlength, ← map_fold_eq_iff h, hw]

/-- A tag is taken off at the places where it stands. -/
theorem dropFold?_drop {tag t rest : Text} {i : Nat} (h : IsPlain tag) :
    dropFold? tag (t.drop i) = some rest ↔ TagAt tag t i ∧ rest = t.drop (i + tag.length) := by
  rw [dropFold?_eq_some]
  constructor
  · rintro ⟨literal, ht, hliteral⟩
    have hlength : literal.length = tag.length := by rw [← hliteral, List.length_map]
    refine ⟨?_, ?_⟩
    · rw [TagAt, ht, List.take_left' hlength, ← map_fold_eq_iff h, hliteral]
    · rw [← List.drop_drop, ht, List.drop_left' hlength]
  · rintro ⟨hat, rfl⟩
    refine ⟨(t.drop i).take tag.length, ?_, (map_fold_eq_iff h).mpr hat⟩
    rw [← List.drop_drop, List.take_append_drop]

theorem dropFold?_drop_eq_none {tag t : Text} {i : Nat} (h : IsPlain tag) :
    dropFold? tag (t.drop i) = none ↔ ¬TagAt tag t i := by
  rw [Option.eq_none_iff_forall_ne_some]
  constructor
  · intro hnone hat
    exact hnone _ ((dropFold?_drop h).mpr ⟨hat, rfl⟩)
  · intro hnot rest hrest
    exact hnot ((dropFold?_drop h).mp hrest).1

theorem dropFold?_nil {tag : Text} (hne : tag ≠ []) : dropFold? tag [] = none := by
  cases tag with
  | nil => exact absurd rfl hne
  | cons a tag => rfl

section Tag

variable {tag t before rest : Text} (h : IsPlain tag) (hne : tag ≠ [])
include h hne

/-- The first place of a tag, with what stands in front of it and what follows. -/
theorem splitFirst?_tag : splitFirst? (dropFold? tag) t = some (before, rest) ↔
    ∃ i, FirstAt tag t i ∧ before = t.take i ∧ rest = t.drop (i + tag.length) := by
  simp only [splitFirst?_eq_some_iff (dropFold?_nil hne), dropFold?_drop h, dropFold?_drop_eq_none h]
  constructor
  · rintro ⟨i, hbefore, ⟨hhere, hrest⟩, hfirst⟩
    exact ⟨i, ⟨hhere, hfirst⟩, hbefore, hrest⟩
  · rintro ⟨i, hi, hbefore, hrest⟩
    exact ⟨i, hbefore, ⟨hi.here, hrest⟩, hi.first⟩

/-- The last place of a tag, with what stands in front of it and what follows. -/
theorem splitLast?_tag : splitLast? (dropFold? tag) t = some (before, rest) ↔
    ∃ i, LastAt tag t i ∧ before = t.take i ∧ rest = t.drop (i + tag.length) := by
  simp only [splitLast?_eq_some_iff (dropFold?_nil hne), dropFold?_drop h, dropFold?_drop_eq_none h]
  constructor
  · rintro ⟨i, hbefore, ⟨hhere, hrest⟩, hlast⟩
    exact ⟨i, ⟨hhere, hlast⟩, hbefore, hrest⟩
  · rintro ⟨i, hi, hbefore, hrest⟩
    exact ⟨i, hbefore, ⟨hi.here, hrest⟩, hi.last⟩

end Tag

end DocViewer
