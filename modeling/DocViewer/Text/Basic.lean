/-!
# Text and bytes

A text is the list of its characters and a byte string the list of its bytes. Literal prefixes are taken off with
`dropPrefix?`; `splitFirst?` and `splitLast?` look for the first and the last place where a matcher succeeds, and
`replaceAll` replaces every match from left to right.

Searching keeps what was passed in an accumulator, so that long texts need no stack; `splitFirst?_cons`,
`splitLast?_cons` and `replaceAll_cons` are the equations to reason with.
-/

namespace DocViewer

abbrev Text := List Char

abbrev Bytes := List UInt8

/-- Whether the code point of a character is in one of the ranges, whose ends count. -/
def inRanges (ranges : List (Nat × Nat)) (c : Char) : Bool := ranges.any fun (a, b) => a ≤ c.toNat && c.toNat ≤ b

/-- What follows the literal `p` at the front of `t`. -/
def dropPrefix? : (p t : Text) → Option Text
  | [], t => some t
  | _ :: _, [] => none
  | a :: p, c :: t => if a = c then dropPrefix? p t else none

theorem dropPrefix?_eq_some {p t rest : Text} : dropPrefix? p t = some rest ↔ t = p ++ rest := by
  induction p generalizing t with
  | nil => simp [dropPrefix?]
  | cons a p ih =>
    cases t with
    | nil => simp [dropPrefix?]
    | cons c t =>
      by_cases h : a = c
      · simp [dropPrefix?, h, ih]
      · simp [dropPrefix?, h, Ne.symm h]

/-- What stands before the literal `p` at the end of `t`. -/
def dropSuffix? (p t : Text) : Option Text := (dropPrefix? p.reverse t.reverse).map List.reverse

/-! ## Searching -/

section Search

variable {α : Type}

/-- `splitFirst?` with the characters passed so far, the last one first. -/
def splitFirstFrom (m : Text → Option α) (passed : Text) : Text → Option (Text × α)
  | [] => (m []).map fun a => (passed.reverse, a)
  | c :: t =>
    match m (c :: t) with
    | some a => some (passed.reverse, a)
    | none => splitFirstFrom m (c :: passed) t

/-- The text before the first place where `m` succeeds, and what `m` gives there. -/
def splitFirst? (m : Text → Option α) (t : Text) : Option (Text × α) := splitFirstFrom m [] t

/-- `splitLast?` with the best place so far and the characters passed so far, the last one first. -/
def splitLastFrom (m : Text → Option α) (best : Option (Text × α)) (passed : Text) : Text → Option (Text × α)
  | [] => ((m []).map fun a => (passed, a)).or best
  | c :: t => splitLastFrom m (((m (c :: t)).map fun a => (passed, a)).or best) (c :: passed) t

/-- The text before the last place where `m` succeeds, and what `m` gives there. -/
def splitLast? (m : Text → Option α) (t : Text) : Option (Text × α) :=
  (splitLastFrom m none [] t).map fun (passed, a) => (passed.reverse, a)

theorem splitFirstFrom_eq (m : Text → Option α) (t passed : Text) :
    splitFirstFrom m passed t = (splitFirst? m t).map fun (before, a) => (passed.reverse ++ before, a) := by
  induction t generalizing passed with
  | nil => cases h : m [] <;> simp [splitFirst?, splitFirstFrom, h]
  | cons c t ih =>
    cases h : m (c :: t) with
    | some a => simp [splitFirst?, splitFirstFrom, h]
    | none =>
      rw [splitFirst?, splitFirstFrom, splitFirstFrom, h]
      simp only
      rw [ih, ih [c]]
      cases splitFirst? m t <;> simp

theorem splitFirst?_nil (m : Text → Option α) : splitFirst? m [] = (m []).map ([], ·) := rfl

theorem splitFirst?_cons (m : Text → Option α) (c : Char) (t : Text) :
    splitFirst? m (c :: t) =
      match m (c :: t) with
      | some a => some ([], a)
      | none => (splitFirst? m t).map fun (before, a) => (c :: before, a) := by
  cases h : m (c :: t) with
  | some a => simp [splitFirst?, splitFirstFrom, h]
  | none =>
    rw [splitFirst?, splitFirstFrom, h]
    simp only
    rw [splitFirstFrom_eq]
    cases splitFirst? m t <;> simp

/-- What is found stands in the text: at the front of what follows the text before it. -/
theorem splitFirst?_eq_some {m : Text → Option α} {t before : Text} {a : α} (h : splitFirst? m t = some (before, a)) :
    ∃ found, t = before ++ found ∧ m found = some a := by
  induction t generalizing before with
  | nil =>
    rw [splitFirst?_nil] at h
    obtain ⟨b, hb, e⟩ := Option.map_eq_some_iff.mp h
    obtain ⟨rfl, rfl⟩ := Prod.mk.inj e
    exact ⟨[], rfl, hb⟩
  | cons c t ih =>
    rw [splitFirst?_cons] at h
    cases hm : m (c :: t) with
    | some b =>
      rw [hm] at h
      simp only [Option.some.injEq, Prod.mk.injEq] at h
      obtain ⟨rfl, rfl⟩ := h
      exact ⟨c :: t, rfl, hm⟩
    | none =>
      rw [hm] at h
      obtain ⟨⟨before', b⟩, hb, e⟩ := Option.map_eq_some_iff.mp h
      obtain ⟨rfl, rfl⟩ := Prod.mk.inj e
      obtain ⟨found, rfl, hf⟩ := ih hb
      exact ⟨found, rfl, hf⟩

theorem length_of_splitFirst? {m : Text → Option Text} {t before rest : Text}
    (h : splitFirst? m t = some (before, rest)) (shorter : ∀ {u v : Text}, m u = some v → v.length < u.length) :
    rest.length < t.length := by
  obtain ⟨found, rfl, hf⟩ := splitFirst?_eq_some h
  have := shorter hf
  simp only [List.length_append]; omega

theorem splitLastFrom_eq (m : Text → Option α) (t : Text) (best : Option (Text × α)) (passed : Text) :
    splitLastFrom m best passed t =
      ((splitLastFrom m none [] t).map fun (before, a) => (before ++ passed, a)).or best := by
  induction t generalizing best passed with
  | nil => cases h : m [] <;> simp [splitLastFrom, h]
  | cons c t ih =>
    rw [splitLastFrom, splitLastFrom, ih, ih _ [c]]
    cases splitLastFrom m none [] t <;> cases m (c :: t) <;> simp

theorem splitLast?_nil (m : Text → Option α) : splitLast? m [] = (m []).map ([], ·) := by
  cases h : m [] <;> simp [splitLast?, splitLastFrom, h]

theorem splitLast?_cons (m : Text → Option α) (c : Char) (t : Text) :
    splitLast? m (c :: t) =
      ((splitLast? m t).map fun (before, a) => (c :: before, a)).or ((m (c :: t)).map ([], ·)) := by
  rw [splitLast?, splitLastFrom, splitLastFrom_eq]
  cases h : splitLastFrom m none [] t <;> cases m (c :: t) <;> simp [splitLast?, h]

end Search

/-! ## Replacing -/

/-- What a match gives ends before it: the text that follows is shorter than the text at the match. -/
def Shrinks {α : Type} (m : Text → Option (α × Text)) : Prop :=
  ∀ (t : Text) (a : α) (rest : Text), m t = some (a, rest) → rest.length < t.length

/-- `replaceAll` with the text written so far, the last character first. -/
def replaceFrom (m : Text → Option (Text × Text)) (shrinks : Shrinks m) (out : Text) (t : Text) : Text :=
  match t with
  | [] => out.reverse
  | c :: rest =>
    match _found : m (c :: rest) with
    | none => replaceFrom m shrinks (c :: out) rest
    | some (new, rest) => replaceFrom m shrinks (new.reverse ++ out) rest
termination_by t.length
decreasing_by
  · simp
  · exact shrinks _ _ _ _found

/-- Replaces every match of `m`, from left to right: `m` gives the text to put in and the text that follows the
match. -/
def replaceAll (m : Text → Option (Text × Text)) (shrinks : Shrinks m) (t : Text) : Text := replaceFrom m shrinks [] t

theorem replaceFrom_eq (m : Text → Option (Text × Text)) (shrinks : Shrinks m) (t out : Text) :
    replaceFrom m shrinks out t = out.reverse ++ replaceAll m shrinks t := by
  induction h : t.length using Nat.strongRecOn generalizing t out with
  | ind n ih =>
    subst h
    cases t with
    | nil => simp [replaceAll, replaceFrom]
    | cons c t =>
      rw [replaceAll, replaceFrom, replaceFrom]
      split
      · rw [ih _ (by simp) t (c :: out) rfl, ih _ (by simp) t [c] rfl]; simp
      · rename_i new rest found
        rw [ih _ (shrinks _ _ _ found) rest _ rfl, ih _ (shrinks _ _ _ found) rest (new.reverse ++ []) rfl]; simp

@[simp] theorem replaceAll_nil (m : Text → Option (Text × Text)) (shrinks : Shrinks m) :
    replaceAll m shrinks [] = [] := by simp [replaceAll, replaceFrom]

theorem replaceAll_cons (m : Text → Option (Text × Text)) (shrinks : Shrinks m) (c : Char) (t : Text) :
    replaceAll m shrinks (c :: t) =
      match m (c :: t) with
      | none => c :: replaceAll m shrinks t
      | some (new, rest) => new ++ replaceAll m shrinks rest := by
  rw [replaceAll, replaceFrom]
  split
  · rename_i found; rw [found, replaceFrom_eq]; simp
  · rename_i new rest found; rw [found, replaceFrom_eq]; simp

end DocViewer
