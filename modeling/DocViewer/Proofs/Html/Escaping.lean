import DocViewer.Html.Escape
import DocViewer.Proofs.Text.Searching

/-!
# Reading escaped text back

`unescape` reads the three entities that escaping writes, each where it stands, from left to right.

- It reads escaped text back (`unescape_escape`), whatever entities the text had before, so different texts have
  different escaped forms (`escape_injective`).
- Escaped text has no markup (`escaped_escape`): no tag starts or ends in it, and an ampersand starts one of the
  entities.
-/

namespace DocViewer.Html

/-- The entities that escaping writes, with the characters that they stand for. -/
def entities : List (Text × Char) := [("&amp;".toList, '&'), ("&lt;".toList, '<'), ("&gt;".toList, '>')]

/-- The character that an entity at the front of the text stands for, and what follows the entity. -/
def entity? (t : Text) : Option (Text × Text) :=
  entities.findSome? fun (written, c) => (dropPrefix? written t).map ([c], ·)

theorem entity?_shrinks : Shrinks entity? := by
  intro t new rest h
  obtain ⟨⟨written, c⟩, hmem, hread⟩ := List.exists_of_findSome?_eq_some h
  obtain ⟨rest', hdrop, he⟩ := Option.map_eq_some_iff.mp hread
  obtain ⟨-, rfl⟩ := Prod.mk.inj he
  have hlen : 0 < written.length := by
    simp only [entities, List.mem_cons, Prod.mk.injEq, List.not_mem_nil, or_false] at hmem
    obtain ⟨rfl, -⟩ | ⟨rfl, -⟩ | ⟨rfl, -⟩ := hmem <;> decide
  rw [dropPrefix?_eq_some.mp hdrop, List.length_append]
  omega

/-- The text with each of the entities replaced by its character. -/
def unescape (t : Text) : Text := replaceAll entity? entity?_shrinks t

/-- Text without markup: no tag starts or ends in it, and every ampersand starts one of the entities. -/
structure Escaped (t : Text) : Prop where
  no_open : '<' ∉ t
  no_close : '>' ∉ t
  ampersand : ∀ before after, t = before ++ '&' :: after → ∃ e ∈ entities, e.1 <+: '&' :: after

/-! ## Reading back -/

/-- A character is written as it is, or as the entity that stands for it. -/
theorem escapeChar_cases (c : Char) :
    (escapeChar c, c) ∈ entities ∨ escapeChar c = [c] ∧ c ≠ '&' ∧ c ≠ '<' ∧ c ≠ '>' := by
  unfold escapeChar
  split
  · subst c
    exact .inl (by decide)
  split
  · subst c
    exact .inl (by decide)
  split
  · subst c
    exact .inl (by decide)
  · exact .inr ⟨rfl, ‹_›, ‹_›, ‹_›⟩

/-- Every entity starts with an ampersand. -/
theorem starts_entity? : Starts '&' entity? := by
  intro c t hc
  have hne : ∀ p : Text, dropPrefix? ('&' :: p) (c :: t) = none := fun p => by
    rw [dropPrefix?, if_neg (Ne.symm hc)]
  simp [entity?, entities, hne]

/-- An entity at the front is read as its character. -/
theorem entity?_append {written : Text} {c : Char} (h : (written, c) ∈ entities) (t : Text) :
    entity? (written ++ t) = some ([c], t) := by
  simp only [entities, List.mem_cons, Prod.mk.injEq, List.not_mem_nil, or_false] at h
  obtain ⟨rfl, rfl⟩ | ⟨rfl, rfl⟩ | ⟨rfl, rfl⟩ := h <;> rfl

/-- What a character is written as is read back as that character. -/
theorem unescape_escapeChar (c : Char) (t : Text) : unescape (escapeChar c ++ t) = c :: unescape t := by
  obtain h | ⟨h, hamp, -, -⟩ := escapeChar_cases c
  · exact replaceAll_of_some entity?_shrinks (entity?_append h t)
  · have hclear : Clear entity? [c] t := starts_entity?.clear (by simpa using Ne.symm hamp) t
    rw [h]
    exact replaceAll_append entity?_shrinks hclear

/-- Escaped text is read back as the text. -/
theorem unescape_escape (t : Text) : unescape (escape t) = t := by
  induction t with
  | nil => exact replaceAll_nil _ entity?_shrinks
  | cons c t ih => rw [escape, List.flatMap_cons, unescape_escapeChar, ← escape, ih]

theorem escape_injective : Function.Injective escape := fun t t' h => by
  rw [← unescape_escape t, h, unescape_escape]

/-! ## No markup -/

/-- An entity starts with its only ampersand, and has no other character of markup. -/
theorem entity_written {e : Text × Char} (h : e ∈ entities) :
    ∃ name, e.1 = '&' :: name ∧ '&' ∉ name ∧ '<' ∉ name ∧ '>' ∉ name := by
  have hall : ∀ e ∈ entities, e.1 = '&' :: e.1.tail ∧ '&' ∉ e.1.tail ∧ '<' ∉ e.1.tail ∧ '>' ∉ e.1.tail := by decide
  exact ⟨e.1.tail, hall e h⟩

theorem Escaped.entity_append {e : Text × Char} {t : Text} (he : e ∈ entities) (h : Escaped t) :
    Escaped (e.1 ++ t) := by
  obtain ⟨name, hname, hamp, hopen, hclose⟩ := entity_written he
  refine ⟨?_, ?_, fun before after hsplit => ?_⟩
  · simp [hname, hopen, h.no_open]
  · simp [hname, hclose, h.no_close]
  cases before with
  | nil => exact ⟨e, he, t, hsplit⟩
  | cons b before =>
    rw [hname, List.cons_append, List.cons_append, List.cons.injEq] at hsplit
    obtain ⟨more, -, ht⟩ | ⟨more, hmore, ht⟩ := List.append_eq_append_iff.mp hsplit.2
    · exact h.ampersand more after ht
    · cases more with
      | nil => exact h.ampersand [] after ht.symm
      | cons d more =>
        -- the ampersand would be a further one of the entity
        rw [List.cons_append, List.cons.injEq] at ht
        exact absurd (by rw [hmore, ← ht.1]; simp) hamp

theorem Escaped.cons {c : Char} {t : Text} (hamp : c ≠ '&') (hopen : c ≠ '<') (hclose : c ≠ '>') (h : Escaped t) :
    Escaped (c :: t) := by
  refine ⟨by simp [Ne.symm hopen, h.no_open], by simp [Ne.symm hclose, h.no_close], fun before after hsplit => ?_⟩
  cases before with
  | nil => exact absurd (List.cons.inj hsplit).1 hamp
  | cons b before => exact h.ampersand before after (List.cons.inj hsplit).2

/-- Escaped text has no markup. -/
theorem escaped_escape (t : Text) : Escaped (escape t) := by
  induction t with
  | nil => exact ⟨by simp [escape], by simp [escape], by simp [escape]⟩
  | cons c t ih =>
    rw [escape, List.flatMap_cons]
    obtain h | ⟨h, hamp, hopen, hclose⟩ := escapeChar_cases c
    · exact ih.entity_append h
    · rw [h]
      exact ih.cons hamp hopen hclose

/-- Escaping brings no character in but those of the entities. -/
theorem mem_escape {c : Char} {t : Text} (h : c ∈ escape t) : c ∈ t ∨ ∃ e ∈ entities, c ∈ e.1 := by
  obtain ⟨d, hd, hc⟩ := List.mem_flatMap.mp h
  obtain hmem | ⟨hd', -⟩ := escapeChar_cases d
  · exact .inr ⟨_, hmem, hc⟩
  · rw [hd', List.mem_singleton] at hc
    exact .inl (hc ▸ hd)

end DocViewer.Html
