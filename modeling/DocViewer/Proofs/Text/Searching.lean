import DocViewer.Proofs.Text.Literals

/-!
# Where a search finds nothing

`Clear m p t` says that no match of `m` starts in the text `p` when `t` follows it. A search passes over such a text
(`splitFirst?_append`, `splitLast?_of_clear`), and replacing leaves it as it is (`replaceAll_append`). Texts are clear
part by part (`clear_append`), and a text without the character that a match starts with is clear (`Starts.clear`).
-/

namespace DocViewer

variable {α : Type} {m : Text → Option α}

/-- No match starts in `p` when `t` follows it. -/
def Clear (m : Text → Option α) : (p t : Text) → Prop
  | [], _ => True
  | c :: p, t => m (c :: (p ++ t)) = none ∧ Clear m p t

instance Clear.decidable : (p t : Text) → Decidable (Clear m p t)
  | [], _ => isTrue trivial
  | c :: p, t =>
    have := Clear.decidable p t
    inferInstanceAs (Decidable (m (c :: (p ++ t)) = none ∧ Clear m p t))

theorem clear_append {p q t : Text} : Clear m (p ++ q) t ↔ Clear m p (q ++ t) ∧ Clear m q t := by
  induction p with
  | nil => simp [Clear]
  | cons c p ih => simp only [List.cons_append, Clear, ih, List.append_assoc, and_assoc]

/-- No match starts anywhere in a clear text. -/
theorem Clear.eq_none {p t u v : Text} (h : Clear m p t) (hp : p = u ++ v) (hv : v ≠ []) : m (v ++ t) = none := by
  subst hp
  obtain ⟨c, v, rfl⟩ := List.exists_cons_of_ne_nil hv
  exact (clear_append.mp h).2.1

/-- A text is clear if no match starts anywhere in it. -/
theorem clear_of_eq_none {p t : Text} (h : ∀ u c v, p = u ++ c :: v → m (c :: (v ++ t)) = none) : Clear m p t := by
  induction p with
  | nil => trivial
  | cons c p ih => exact ⟨h [] c p rfl, ih fun u d v hp => h (c :: u) d v (congrArg (c :: ·) hp)⟩

/-- Where one matcher finds nothing, so does one that succeeds at fewer places. -/
theorem Clear.mono {β : Type} {m' : Text → Option β} (hm : ∀ t, m t = none → m' t = none) {p t : Text}
    (h : Clear m p t) : Clear m' p t := by
  induction p with
  | nil => trivial
  | cons c p ih => exact ⟨hm _ h.1, ih h.2⟩

/-! ## Searching -/

theorem splitFirst?_append {p t : Text} (h : Clear m p t) :
    splitFirst? m (p ++ t) = (splitFirst? m t).map fun (before, a) => (p ++ before, a) := by
  induction p with
  | nil => cases hs : splitFirst? m t <;> simp [hs]
  | cons c p ih =>
    rw [List.cons_append, splitFirst?_cons, h.1, ih h.2]
    cases splitFirst? m t <;> rfl

/-- What is found first behind a clear text. -/
theorem splitFirst?_of_clear {p t : Text} {a : α} (h : Clear m p t) (ht : m t = some a) :
    splitFirst? m (p ++ t) = some (p, a) := by
  rw [splitFirst?_append h, splitFirst?_of_some ht]
  simp

/-- Nothing is found in a clear text. -/
theorem splitFirst?_eq_none {t : Text} (h : Clear m t []) (hnil : m [] = none) : splitFirst? m t = none := by
  rw [← List.append_nil t, splitFirst?_append h, splitFirst?_nil, hnil]
  rfl

/-- What is found first stands behind a clear text. -/
theorem clear_of_splitFirst? {t before : Text} {a : α} (h : splitFirst? m t = some (before, a)) :
    ∃ found, t = before ++ found ∧ m found = some a ∧ Clear m before found := by
  induction t generalizing before with
  | nil =>
    obtain ⟨b, hb, heq⟩ := Option.map_eq_some_iff.mp ((splitFirst?_nil m).symm.trans h)
    obtain ⟨rfl, rfl⟩ := Prod.mk.inj heq
    exact ⟨[], rfl, hb, trivial⟩
  | cons c t ih =>
    rw [splitFirst?_cons] at h
    cases hhere : m (c :: t) with
    | some b =>
      rw [hhere] at h
      cases h
      exact ⟨c :: t, rfl, hhere, trivial⟩
    | none =>
      rw [hhere] at h
      obtain ⟨⟨before', b⟩, hfirst, heq⟩ := Option.map_eq_some_iff.mp h
      obtain ⟨rfl, rfl⟩ := Prod.mk.inj heq
      obtain ⟨found, rfl, hfound, hclear⟩ := ih hfirst
      exact ⟨found, rfl, hfound, hhere, hclear⟩

/-- Where nothing is found, the text is clear. -/
theorem clear_of_splitFirst?_eq_none {t : Text} (h : splitFirst? m t = none) : Clear m t [] := by
  induction t with
  | nil => trivial
  | cons c t ih =>
    rw [splitFirst?_cons] at h
    cases hhere : m (c :: t) with
    | some b =>
      rw [hhere] at h
      cases h
    | none =>
      rw [hhere] at h
      exact ⟨(List.append_nil t).symm ▸ hhere, ih (Option.map_eq_none_iff.mp h)⟩

theorem splitLast?_eq_none {t : Text} (h : Clear m t []) (hnil : m [] = none) : splitLast? m t = none := by
  induction t with
  | nil => rw [splitLast?_nil, hnil]; rfl
  | cons c t ih =>
    have hhere : m (c :: t) = none := by rw [← h.1, List.append_nil]
    rw [splitLast?_cons, hhere, ih h.2]
    rfl

/-- What stands in front of a clear text is found last. -/
theorem splitLast?_of_clear {c : Char} {t : Text} {a : α} (h : m (c :: t) = some a) (ht : Clear m t [])
    (hnil : m [] = none) : splitLast? m (c :: t) = some ([], a) := by
  rw [splitLast?_cons, splitLast?_eq_none ht hnil, h]
  rfl

/-- What is found last stands in the text: at the front of what follows the text before it. -/
theorem splitLast?_eq_some {t before : Text} {a : α} (h : splitLast? m t = some (before, a)) :
    ∃ found, t = before ++ found ∧ m found = some a := by
  induction t generalizing before with
  | nil =>
    rw [splitLast?_nil] at h
    obtain ⟨b, hb, he⟩ := Option.map_eq_some_iff.mp h
    obtain ⟨rfl, rfl⟩ := Prod.mk.inj he
    exact ⟨[], rfl, hb⟩
  | cons c t ih =>
    rw [splitLast?_cons] at h
    obtain h | ⟨-, h⟩ := Option.or_eq_some_iff.mp h
    · obtain ⟨⟨before', b⟩, hb, he⟩ := Option.map_eq_some_iff.mp h
      obtain ⟨rfl, rfl⟩ := Prod.mk.inj he
      obtain ⟨found, rfl, hfound⟩ := ih hb
      exact ⟨found, rfl, hfound⟩
    · obtain ⟨b, hb, he⟩ := Option.map_eq_some_iff.mp h
      obtain ⟨rfl, rfl⟩ := Prod.mk.inj he
      exact ⟨c :: t, rfl, hb⟩

/-- Where something is found, something is found last, there or further on. -/
theorem splitLast?_of_found {found : Text} {a : α} (h : m found = some a) (before : Text) :
    ∃ last b, splitLast? m (before ++ found) = some (last, b) ∧ before <+: last := by
  induction before with
  | nil =>
    cases found with
    | nil => exact ⟨[], a, by rw [List.nil_append, splitLast?_nil, h]; rfl, List.nil_prefix⟩
    | cons c found =>
      rw [List.nil_append, splitLast?_cons, h]
      cases splitLast? m found with
      | none => exact ⟨[], a, rfl, List.nil_prefix⟩
      | some last => exact ⟨_, _, rfl, List.nil_prefix⟩
  | cons c before ih =>
    obtain ⟨last, b, hlast, hle⟩ := ih
    rw [List.cons_append, splitLast?_cons, hlast]
    exact ⟨c :: last, b, rfl, List.cons_prefix_cons.mpr ⟨rfl, hle⟩⟩

/-- What is found last is found last with more in front. -/
theorem splitLast?_append {p t before : Text} {a : α} (h : splitLast? m t = some (before, a)) :
    splitLast? m (p ++ t) = some (p ++ before, a) := by
  induction p with
  | nil => exact h
  | cons c p ih => rw [List.cons_append, splitLast?_cons, ih]; rfl

/-- No match starts behind one that a clear text follows. -/
theorem prefix_of_clear {before before' found t : Text} {c : Char} {a b : α} (h : m (c :: t) = some a)
    (ht : Clear m t []) (hnil : m [] = none) (hfound : m found = some b) (heq : before' ++ found = before ++ c :: t) :
    before' <+: before := by
  have hhere : splitLast? m (before ++ c :: t) = some (before ++ [], a) :=
    splitLast?_append (splitLast?_of_clear h ht hnil)
  obtain ⟨last, b', hlast, hle⟩ := splitLast?_of_found hfound before'
  rw [heq, hhere] at hlast
  obtain ⟨rfl, -⟩ := Prod.mk.inj (Option.some.inj hlast)
  rwa [List.append_nil] at hle

/-! ## Replacing -/

theorem replaceAll_append {m : Text → Option (Text × Text)} (shrinks : Shrinks m) {p t : Text} (h : Clear m p t) :
    replaceAll m shrinks (p ++ t) = p ++ replaceAll m shrinks t := by
  induction p with
  | nil => rfl
  | cons c p ih => rw [List.cons_append, replaceAll_cons, h.1, ih h.2]; rfl

/-- A match at the front is replaced, and replacing goes on behind it. -/
theorem replaceAll_of_some {m : Text → Option (Text × Text)} (shrinks : Shrinks m) {t new rest : Text}
    (h : m t = some (new, rest)) : replaceAll m shrinks t = new ++ replaceAll m shrinks rest := by
  cases t with
  | nil => exact absurd (shrinks _ _ _ h) (Nat.not_lt_zero _)
  | cons c t => rw [replaceAll_cons, h]

/-! ## The first character of a match -/

/-- Every match starts with the character. -/
def Starts (a : Char) (m : Text → Option α) : Prop := ∀ c t, c ≠ a → m (c :: t) = none

theorem Starts.clear {a : Char} (h : Starts a m) {p : Text} (hp : a ∉ p) (t : Text) : Clear m p t := by
  induction p with
  | nil => trivial
  | cons c p ih =>
    rw [List.mem_cons, not_or] at hp
    exact ⟨h c _ (Ne.symm hp.1), ih hp.2⟩

/-! ## Literals -/

theorem starts_dropPrefix? {p : Text} {a : Char} (hp : p.head? = some a) : Starts a (dropPrefix? p) := by
  intro c t hc
  cases p with
  | nil => cases hp
  | cons d p =>
    obtain rfl := Option.some.inj hp
    rw [dropPrefix?, if_neg (Ne.symm hc)]

/-- A text in which the literal does not stand is clear if what follows starts with no character of the literal. -/
theorem clear_of_not_infix {p q : Text} (h : ¬p <:+: q) {t : Text} (ht : ∀ c ∈ t.head?, c ∉ p) :
    Clear (dropPrefix? p) q t := by
  refine clear_of_eq_none fun u c v hq => dropPrefix?_eq_none.mpr fun hp => ?_
  have hno : ¬p <+: c :: v := fun hin => h (hq ▸ hin.isInfix.trans (List.suffix_append u (c :: v)).isInfix)
  rw [← List.cons_append] at hp
  obtain hin | ⟨more, hmore⟩ := List.prefix_or_prefix_of_prefix hp (List.prefix_append (c :: v) t)
  · exact hno hin
  · -- the literal goes on into what follows, so it holds the first character there
    cases more with
    | nil => exact hno ⟨[], by rw [← hmore, List.append_nil, List.append_nil]⟩
    | cons d more =>
      rw [← hmore, List.prefix_append_right_inj] at hp
      obtain ⟨rest, rfl⟩ := hp
      exact ht d rfl (hmore ▸ List.mem_append_right _ List.mem_cons_self)

end DocViewer
