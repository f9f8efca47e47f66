import DocViewer.Proofs.Text.Searching
import Mathlib.Computability.Language

/-!
# The languages of matchers

`Drops m L` says that `m` takes a word of the language `L` off the front of a text, whatever the word and whatever
follows it; the words of two matchers in a row are those of the product (`Drops.bind`). A text is `Free L` if no word of
`L` stands in it, which a search decides (`Drops.free_iff`). What a search finds is the first place where a word starts
(`Drops.splitFirst?_eq_some`); for a literal this is the first place where it stands (`splitFirst?_spelling`).

`Heads L m` says less: that every match of `m` starts with a word of `L`. For a literal it is enough to see that `m`
does not succeed at another literal (`Heads.eq_none`) nor anywhere in it (`Heads.clear_spelling`), whatever follows.
-/

namespace DocViewer

variable {α : Type} {m m' : Text → Option Text} {L L' : Language Char}

/-- The spellings of a literal, in any case. -/
def spellings (literal : Text) : Language Char := {w | w.map fold = literal}

instance (p w : Text) : Decidable (w ∈ spellings p) := inferInstanceAs (Decidable (w.map fold = p))

/-- What the matcher takes off the front of a text is a word of the language, and any such word. -/
def Drops (m : Text → Option Text) (L : Language Char) : Prop := ∀ t rest, m t = some rest ↔ ∃ w ∈ L, t = w ++ rest

/-- Every match starts with a word of the language. -/
def Heads (L : Language Char) (m : Text → Option α) : Prop := ∀ t a, m t = some a → ∃ w ∈ L, w <+: t

/-- No word of the language stands in the text. -/
def Free (L : Language Char) (t : Text) : Prop := ∀ w ∈ L, ¬w <:+: t

/-- No word of the language starts in `p` when `t` follows it. -/
def NoneStarts (L : Language Char) (p t : Text) : Prop := ∀ u v, p = u ++ v → v ≠ [] → ∀ w ∈ L, ¬w <+: v ++ t

/-- Neither literal starts with the other. -/
def Apart (p q : Text) : Prop := ¬p <+: q ∧ ¬q <+: p

instance (p q : Text) : Decidable (Apart p q) := inferInstanceAs (Decidable (_ ∧ _))

/-- A literal does not start in another, whatever follows, if it is apart from every end of it. -/
theorem clear_literal {p q : Text} (h : ∀ s ∈ q.tails, s ≠ [] → Apart p s) (t : Text) : Clear (dropPrefix? p) q t := by
  refine clear_of_eq_none fun u c v hq => dropPrefix?_eq_none.mpr fun hp => ?_
  have hapart := h (c :: v) ((List.mem_tails _ _).mpr ⟨u, hq.symm⟩) (List.cons_ne_nil c v)
  rw [← List.cons_append] at hp
  exact (List.prefix_or_prefix_of_prefix hp (List.prefix_append (c :: v) t)).elim hapart.1 hapart.2

/-! ## Words that are taken off -/

theorem spellings_append (p q : Text) : spellings (p ++ q) = spellings p * spellings q := by
  ext w
  rw [Language.mem_mul]
  constructor
  · intro h
    obtain ⟨a, b, rfl, ha, hb⟩ := List.map_eq_append_iff.mp h
    exact ⟨a, ha, b, hb, rfl⟩
  · rintro ⟨a, ha, b, hb, rfl⟩
    exact (List.map_append ..).trans (congrArg₂ (· ++ ·) ha hb)

/-- A word of a product starts with a word of the first factor. -/
theorem exists_front {L₁ L₂ : Language Char} {w : Text} (hw : w ∈ L * L₁ * L₂) : ∃ a ∈ L, ∃ b, a ++ b = w := by
  rw [mul_assoc, Language.mem_mul] at hw
  obtain ⟨a, ha, b, -, h⟩ := hw
  exact ⟨a, ha, b, h⟩

/-- A word of the factor in the middle stands in a word of a product. -/
theorem exists_inside {L₁ L₂ : Language Char} {w : Text} (hw : w ∈ L₁ * L * L₂) : ∃ a ∈ L, a <:+: w := by
  obtain ⟨_, hmul, y, -, rfl⟩ := Language.mem_mul.mp hw
  obtain ⟨x, -, a, ha, rfl⟩ := Language.mem_mul.mp hmul
  exact ⟨a, ha, x, y, rfl⟩

theorem drops_dropFold? (p : Text) : Drops (dropFold? p) (spellings p) := by
  intro t rest
  rw [dropFold?_eq_some]
  exact ⟨fun ⟨w, ht, hw⟩ => ⟨w, hw, ht⟩, fun ⟨w, hw, ht⟩ => ⟨w, ht, hw⟩⟩

/-- One matcher after the other takes off a word of the one and then a word of the other. -/
theorem Drops.bind (h : Drops m L) (h' : Drops m' L') : Drops (fun t => (m t).bind m') (L * L') := by
  intro t rest
  rw [Option.bind_eq_some_iff]
  constructor
  · rintro ⟨t', ht, hrest⟩
    obtain ⟨w, hw, rfl⟩ := (h _ _).mp ht
    obtain ⟨w', hw', rfl⟩ := (h' _ _).mp hrest
    exact ⟨w ++ w', Language.append_mem_mul hw hw', (List.append_assoc ..).symm⟩
  · rintro ⟨_, hmul, rfl⟩
    obtain ⟨w, hw, w', hw', rfl⟩ := Language.mem_mul.mp hmul
    exact ⟨w' ++ rest, (h _ _).mpr ⟨w, hw, List.append_assoc ..⟩, (h' _ _).mpr ⟨w', hw', rfl⟩⟩

theorem Drops.heads (h : Drops m L) : Heads L m := fun t rest hm => by
  obtain ⟨w, hw, rfl⟩ := (h t rest).mp hm
  exact ⟨w, hw, w.prefix_append rest⟩

/-- What is taken off whole is a word. -/
theorem Drops.mem (h : Drops m L) {w : Text} (hw : m w = some []) : w ∈ L := by
  obtain ⟨v, hv, rfl⟩ := (h _ _).mp hw
  rwa [List.append_nil]

theorem Free.of_isInfix {p q : Text} (h : Free L q) (hin : p <:+: q) : Free L p :=
  fun w hw hword => h w hw (hword.trans hin)

theorem Free.tail {c : Char} {p : Text} (h : Free L (c :: p)) : Free L p := h.of_isInfix (List.suffix_cons c p).isInfix

/-- A text is free of a language if a matcher of its words finds nothing in it. -/
theorem Drops.free_iff (h : Drops m L) (hnil : [] ∉ L) {t : Text} : Free L t ↔ Clear m t [] := by
  constructor
  · intro hfree
    refine clear_of_eq_none fun u c v ht => Option.eq_none_iff_forall_ne_some.mpr fun rest hrest => ?_
    obtain ⟨w, hw, heq⟩ := (h _ _).mp hrest
    exact hfree w hw ⟨u, rest, by rw [ht, List.append_assoc, ← heq, List.append_nil]⟩
  · rintro hclear w hw ⟨u, v, ht⟩
    have hne : w ++ v ≠ [] := fun hwv => hnil ((List.append_eq_nil_iff.mp hwv).1 ▸ hw)
    have hnone := hclear.eq_none (by rw [← ht, List.append_assoc]) hne
    rw [List.append_nil, (h _ _).mpr ⟨w, hw, rfl⟩] at hnone
    cases hnone

/-- No word starts in a text in which a matcher of the words finds nothing. -/
theorem Drops.noneStarts_iff (h : Drops m L) {p t : Text} : NoneStarts L p t ↔ Clear m p t := by
  constructor
  · intro hnone
    refine clear_of_eq_none fun u c v hp => Option.eq_none_iff_forall_ne_some.mpr fun rest hrest => ?_
    obtain ⟨w, hw, heq⟩ := (h _ _).mp hrest
    exact hnone u (c :: v) hp (List.cons_ne_nil c v) w hw ⟨rest, heq.symm⟩
  · rintro hclear u v hp hv w hw ⟨rest, heq⟩
    have hnone := hclear.eq_none hp hv
    rw [(h _ _).mpr ⟨w, hw, heq.symm⟩] at hnone
    cases hnone

/-- The first place of a word, with what stands in front of it and what follows. -/
theorem Drops.splitFirst?_eq_some (h : Drops m L) {t before after : Text} :
    splitFirst? m t = some (before, after) ↔
      ∃ w ∈ L, t = before ++ (w ++ after) ∧ NoneStarts L before (w ++ after) := by
  constructor
  · intro hfirst
    obtain ⟨found, rfl, hfound, hclear⟩ := clear_of_splitFirst? hfirst
    obtain ⟨w, hw, rfl⟩ := (h _ _).mp hfound
    exact ⟨w, hw, rfl, h.noneStarts_iff.mpr hclear⟩
  · rintro ⟨w, hw, rfl, hnone⟩
    exact splitFirst?_of_clear (h.noneStarts_iff.mp hnone) ((h _ _).mpr ⟨w, hw, rfl⟩)

/-- A search for a word finds nothing in a text that is free of them. -/
theorem Drops.splitFirst?_eq_none (h : Drops m L) (hnil : [] ∉ L) {t : Text} :
    splitFirst? m t = none ↔ Free L t := by
  have hend : m [] = none := Option.eq_none_iff_forall_ne_some.mpr fun rest hrest => by
    obtain ⟨w, hw, heq⟩ := (h _ _).mp hrest
    exact hnil ((List.append_eq_nil_iff.mp heq.symm).1 ▸ hw)
  rw [h.free_iff hnil]
  exact ⟨clear_of_splitFirst?_eq_none, fun hclear => DocViewer.splitFirst?_eq_none hclear hend⟩

theorem free_spellings {p t : Text} (hp : p ≠ []) : Free (spellings p) t ↔ Clear (dropFold? p) t [] :=
  (drops_dropFold? p).free_iff fun hnil => hp hnil.symm

/-! ## Words that matches start with -/

/-- A match that starts with a word of a product starts with a word of its first factor. -/
theorem Heads.left {m : Text → Option α} (h : Heads (L * L') m) : Heads L m := fun t a hm => by
  obtain ⟨_, hmul, htw⟩ := h t a hm
  obtain ⟨w, hw, w', -, rfl⟩ := Language.mem_mul.mp hmul
  exact ⟨w, hw, (w.prefix_append w').trans htw⟩

section Literal

variable {m : Text → Option α} {p q : Text}

/-- No match starts where another literal stands. -/
theorem Heads.eq_none (hm : Heads (spellings p) m) (h : Apart p q) {w : Text} (hw : w ∈ spellings q) (t : Text) :
    m (w ++ t) = none := by
  refine Option.eq_none_iff_forall_ne_some.mpr fun a ha => ?_
  obtain ⟨v, hv, hvt⟩ := hm _ _ ha
  have hp : p <+: (w ++ t).map fold := hv ▸ hvt.map fold
  have hq : q <+: (w ++ t).map fold := hw ▸ (w.prefix_append t).map fold
  exact (List.prefix_or_prefix_of_prefix hp hq).elim h.1 h.2

/-- No match starts in another literal. -/
theorem Heads.clear_spelling (hm : Heads (spellings p) m) (h : ∀ s ∈ q.tails, s ≠ [] → Apart p s) {w : Text}
    (hw : w ∈ spellings q) (t : Text) : Clear m w t := by
  induction w generalizing q with
  | nil => trivial
  | cons c w ih =>
    have hq : fold c :: w.map fold = q := hw
    have hhere : Apart p q := h q ((List.mem_tails _ _).mpr List.suffix_rfl) (hq ▸ List.cons_ne_nil _ _)
    refine ⟨hm.eq_none hhere hw t, ih (fun s hs => h s ?_) rfl⟩
    rw [List.mem_tails] at hs ⊢
    exact hs.trans (hq ▸ List.suffix_cons _ _)

/-- Every match starts with the first character of its literal, if it is no letter. -/
theorem Heads.starts (hm : Heads (spellings p) m) {a : Char} (hp : p.head? = some a) (ha : a.isAlpha = false) :
    Starts a m := by
  refine fun c t hc => Option.eq_none_iff_forall_ne_some.mpr fun b hb => ?_
  obtain ⟨v, rfl, hvt⟩ := hm _ _ hb
  cases v with
  | nil => cases hp
  | cons d v =>
    obtain rfl := (List.cons_prefix_cons.mp hvt).1
    exact hc (eq_of_fold (Option.some.inj hp) ha)

theorem heads_dropFold? (p : Text) : Heads (spellings p) (dropFold? p) := (drops_dropFold? p).heads

/-- One literal is not taken off where the other stands. -/
theorem dropFold?_eq_none (h : Apart p q) {w : Text} (hw : w ∈ spellings q) (t : Text) :
    dropFold? p (w ++ t) = none :=
  (heads_dropFold? p).eq_none h hw t

/-- A literal ends in front of another one that is apart from every end of it. -/
theorem dropFold?_append_spelling (h : ∀ s ∈ p.tails, s ≠ [] → Apart s q) {w : Text} (hw : w ∈ spellings q)
    (b t : Text) : dropFold? p (b ++ (w ++ t)) = (dropFold? p b).map (· ++ (w ++ t)) :=
  dropFold?_append_of_none (fun s hs hne => dropFold?_eq_none (h s ((List.mem_tails _ _).mpr hs) hne) hw t) b

/-- A literal at the end starts behind another one that is apart from every start of it. -/
theorem dropSuffixFold?_append_spelling (h : ∀ s ∈ p.reverse.tails, s ≠ [] → Apart s q.reverse) {w : Text}
    (hw : w ∈ spellings q) (b t : Text) :
    dropSuffixFold? p (b ++ (w ++ t)) = (dropSuffixFold? p t).map fun rest => b ++ (w ++ rest) := by
  have hreverse : w.reverse ∈ spellings q.reverse := by
    obtain rfl : w.map fold = q := hw
    exact List.map_reverse
  simp only [dropSuffixFold?, List.reverse_append, List.append_assoc, dropFold?_append_spelling h hreverse,
    Option.map_map]
  congr 1
  funext rest
  simp

/-- Where another literal follows, only what stands in front of it matters for the starts of a literal there. -/
theorem clear_append_spelling (h : ∀ s ∈ p.tail.tails, s ≠ [] → Apart s q) {w : Text} (hw : w ∈ spellings q)
    {b : Text} (t : Text) : Clear (dropFold? p) b (w ++ t) ↔ Clear (dropFold? p) b [] := by
  induction b with
  | nil => rfl
  | cons c b ih =>
    refine and_congr ?_ ih
    cases p with
    | nil => simp [dropFold?]
    | cons a p =>
      by_cases hc : fold c = a
      · rw [dropFold?, dropFold?, if_pos hc, if_pos hc, dropFold?_append_spelling (p := p) h hw,
          Option.map_eq_none_iff, List.append_nil]
      · rw [dropFold?, dropFold?, if_neg hc, if_neg hc]

/-- The first place of a literal, in front of which it does not stand. -/
theorem splitFirst?_spelling (hp : p ≠ []) (h : ∀ s ∈ p.tail.tails, s ≠ [] → Apart s p) {t before after : Text} :
    splitFirst? (dropFold? p) t = some (before, after) ↔
      ∃ w ∈ spellings p, t = before ++ (w ++ after) ∧ Free (spellings p) before := by
  rw [(drops_dropFold? p).splitFirst?_eq_some]
  refine exists_congr fun w => and_congr_right fun hw => and_congr_right fun _ => ?_
  rw [(drops_dropFold? p).noneStarts_iff, clear_append_spelling h hw, free_spellings hp]

end Literal

end DocViewer
