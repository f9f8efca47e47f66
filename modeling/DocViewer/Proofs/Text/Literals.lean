import DocViewer.Text.Letters

/-!
# Looking for a literal

The first place of a literal, in any case, is settled by the text up to the end of the literal: whatever follows there
is given back as it is (`splitFirst?_literal`).
-/

namespace DocViewer

/-- Whether a literal stands at the front. -/
theorem isSome_dropPrefix? {p t : Text} : (dropPrefix? p t).isSome = true ↔ p <+: t := by
  rw [Option.isSome_iff_exists]
  constructor
  · rintro ⟨rest, h⟩
    exact ⟨rest, (dropPrefix?_eq_some.mp h).symm⟩
  · rintro ⟨rest, h⟩
    exact ⟨rest, dropPrefix?_eq_some.mpr h.symm⟩

theorem dropPrefix?_eq_none {p t : Text} : dropPrefix? p t = none ↔ ¬p <+: t := by
  rw [← Option.not_isSome_iff_eq_none, isSome_dropPrefix?]

/-- Whether a literal stands at the end. -/
theorem isSome_dropSuffix? {p t : Text} : (dropSuffix? p t).isSome = true ↔ p <:+ t := by
  rw [dropSuffix?, Option.isSome_map, isSome_dropPrefix?, List.reverse_prefix]

theorem splitFirst?_of_some {α : Type} {m : Text → Option α} {t : Text} {a : α} (h : m t = some a) :
    splitFirst? m t = some ([], a) := by
  cases t with
  | nil => rw [splitFirst?_nil, h]; rfl
  | cons c t => rw [splitFirst?_cons, h]

/-- Whether a literal stands at the front is settled by as many characters as it has. -/
theorem dropFold?_append {p t : Text} (h : p.length ≤ t.length) (rest : Text) :
    dropFold? p (t ++ rest) = (dropFold? p t).map (· ++ rest) := by
  induction p generalizing t with
  | nil => rfl
  | cons a p ih =>
    cases t with
    | nil => cases h
    | cons c t =>
      simp only [List.cons_append, dropFold?]
      split
      · exact ih (Nat.le_of_succ_le_succ h)
      · rfl

/-- A literal ends in front of a text with which no end of it goes on. -/
theorem dropFold?_append_of_none {p t : Text} (h : ∀ s, s <:+ p → s ≠ [] → dropFold? s t = none) (q : Text) :
    dropFold? p (q ++ t) = (dropFold? p q).map (· ++ t) := by
  induction q generalizing p with
  | nil =>
    cases p with
    | nil => rfl
    | cons a p => exact h (a :: p) List.suffix_rfl (List.cons_ne_nil a p)
  | cons c q ih =>
    cases p with
    | nil => rfl
    | cons a p =>
      rw [List.cons_append, dropFold?, dropFold?]
      split
      · exact ih fun s hs => h s (hs.trans (List.suffix_cons a p))
      · rfl

/-- What stands before a literal at the end. -/
theorem dropSuffixFold?_eq_some {p t rest : Text} :
    dropSuffixFold? p t = some rest ↔ ∃ literal, t = rest ++ literal ∧ literal.map fold = p := by
  simp only [dropSuffixFold?, Option.map_eq_some_iff, dropFold?_eq_some]
  constructor
  · rintro ⟨r, ⟨literal, ht, hliteral⟩, rfl⟩
    refine ⟨literal.reverse, ?_, ?_⟩
    · rw [← List.reverse_append, ← ht, List.reverse_reverse]
    · rw [List.map_reverse, hliteral, List.reverse_reverse]
  · rintro ⟨literal, rfl, rfl⟩
    exact ⟨rest.reverse, ⟨literal.reverse, List.reverse_append, List.map_reverse⟩, List.reverse_reverse rest⟩

/-- The first place of a literal does not depend on what follows it. -/
theorem splitFirst?_literal {p t before rest : Text} (h : splitFirst? (dropFold? p) t = some (before, rest)) :
    ∃ literal, literal.map fold = p ∧ t = before ++ (literal ++ rest) ∧
      ∀ rest', splitFirst? (dropFold? p) (before ++ (literal ++ rest')) = some (before, rest') := by
  obtain ⟨found, rfl, hf⟩ := splitFirst?_eq_some h
  obtain ⟨literal, rfl, hl⟩ := dropFold?_eq_some.mp hf
  refine ⟨literal, hl, rfl, fun rest' => ?_⟩
  have hhere : dropFold? p (literal ++ rest') = some rest' := dropFold?_eq_some.mpr ⟨literal, rfl, hl⟩
  induction before with
  | nil => exact splitFirst?_of_some hhere
  | cons c before ih =>
    have hlen : p.length ≤ (c :: (before ++ literal)).length := by simp [← hl]; omega
    have hno : dropFold? p (c :: (before ++ literal)) = none := by
      cases hd : dropFold? p (c :: (before ++ literal)) with
      | none => rfl
      | some left =>
        have happ := dropFold?_append hlen rest
        rw [hd, List.cons_append, List.append_assoc] at happ
        rw [List.cons_append, splitFirst?_cons, happ] at h
        cases h
    have hno' : ∀ r, dropFold? p (c :: (before ++ (literal ++ r))) = none := by
      intro r
      have happ := dropFold?_append hlen r
      rwa [hno, List.cons_append, List.append_assoc] at happ
    rw [List.cons_append, splitFirst?_cons, hno' rest] at h
    obtain ⟨⟨before', rest''⟩, hs, he⟩ := Option.map_eq_some_iff.mp h
    simp only [Prod.mk.injEq, List.cons.injEq, true_and] at he
    obtain ⟨rfl, rfl⟩ := he
    rw [List.cons_append, splitFirst?_cons, hno' rest', ih hs]
    rfl

/-- A character in the place of one below U+0080 other than `s` is below U+0080 itself. -/
theorem toNat_lt_of_fold {c a : Char} (h : fold c = a) (ha : a.toNat < 0x80) (hs : a ≠ 's') : c.toNat < 0x80 := by
  unfold fold at h
  split at h
  · exact absurd h.symm hs
  · unfold Char.toLower at h
    split at h
    · rename_i hu
      have : c.toNat ≤ 'Z'.toNat := hu.2
      have : 'Z'.toNat = 90 := rfl
      omega
    · rw [h]; exact ha

/-- What stands for a character is the character itself, or a letter. -/
theorem toLower_cases (c : Char) : c.toLower = c ∨ c.toLower.isAlpha = true := by
  delta Char.toLower
  split
  · rename_i h
    refine .inr ?_
    delta Char.isAlpha Char.isLower
    have : 'A'.val.toNat = 65 := rfl
    have : 'Z'.val.toNat = 90 := rfl
    have : ('a'.val - 'A'.val).toNat = 32 := rfl
    have : 'a'.val.toNat = 97 := rfl
    have : 'z'.val.toNat = 122 := rfl
    simp only [ge_iff_le, UInt32.le_iff_toNat_le, Bool.or_eq_true, Bool.and_eq_true, decide_eq_true_eq,
      UInt32.toNat_add] at h ⊢
    omega
  · exact .inl rfl

/-- A character in the place of one that is no letter is that one itself. -/
theorem eq_of_fold {c a : Char} (h : fold c = a) (ha : a.isAlpha = false) : c = a := by
  unfold fold at h
  split at h
  · subst h
    cases ha
  · obtain hc | hc := toLower_cases c
    · rw [← h, hc]
    · rw [h, ha] at hc
      cases hc

end DocViewer
