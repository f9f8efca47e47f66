import DocViewer.Text.Basic

/-!
# Literals in any case

`dropFold?` takes a literal off the front of a text, whatever the case of its letters. The literal is written in lower
case and without `k`, so that simple case folding can be `fold`: a capital letter stands for its small one, and the
long s for `s`.
-/

namespace DocViewer

/-- Simple case folding, as far as it leads to a character below U+0080 other than `k`. -/
def fold (c : Char) : Char := if c = '\u017f' then 's' else c.toLower

/-- What follows the literal `p`, in any case, at the front of the text. -/
def dropFold? : (p t : Text) → Option Text
  | [], t => some t
  | _ :: _, [] => none
  | a :: p, c :: t => if fold c = a then dropFold? p t else none

theorem dropFold?_eq_some {p t rest : Text} :
    dropFold? p t = some rest ↔ ∃ literal, t = literal ++ rest ∧ literal.map fold = p := by
  induction p generalizing t with
  | nil =>
    simp only [dropFold?, Option.some.injEq, List.map_eq_nil_iff]
    exact ⟨fun h => ⟨[], h, rfl⟩, fun ⟨l, ht, hl⟩ => by subst hl; exact ht⟩
  | cons a p ih =>
    cases t with
    | nil =>
      simp only [dropFold?, reduceCtorEq, false_iff, not_exists, not_and]
      intro l h hl
      rw [(List.append_eq_nil_iff.mp h.symm).1] at hl
      simp at hl
    | cons c t =>
      rw [dropFold?]
      split
      · rename_i hc
        rw [ih]
        constructor
        · rintro ⟨l, rfl, rfl⟩
          exact ⟨c :: l, rfl, by simp [hc]⟩
        · rintro ⟨l, h, hl⟩
          cases l with
          | nil => simp at hl
          | cons d l =>
            simp only [List.cons_append, List.cons.injEq, List.map_cons] at h hl
            exact ⟨l, h.2, hl.2⟩
      · rename_i hc
        simp only [reduceCtorEq, false_iff, not_exists, not_and]
        intro l h hl
        cases l with
        | nil => simp at hl
        | cons d l =>
          simp only [List.cons_append, List.cons.injEq, List.map_cons] at h hl
          exact hc (h.1 ▸ hl.1)

/-- A literal and what follows it make up the text. -/
theorem length_of_dropFold? {p t rest : Text} (h : dropFold? p t = some rest) : rest.length + p.length = t.length := by
  obtain ⟨l, rfl, rfl⟩ := dropFold?_eq_some.mp h
  simp; omega

/-- What stands before the literal `p`, in any case, at the end of the text. -/
def dropSuffixFold? (p t : Text) : Option Text := (dropFold? p.reverse t.reverse).map List.reverse

end DocViewer
