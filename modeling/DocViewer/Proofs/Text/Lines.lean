import DocViewer.Proofs.Text.Blank
import DocViewer.Proofs.Text.Literals
import DocViewer.Text.Lines
import Mathlib.Data.List.TakeWhile

/-!
# Texts written line by line

The lines of a text that was written line by line are the lines that were written (`lines_unlines`). But for white
space, the first line of any text is what stands in front of its first newline (`trim_firstLine`).
-/

namespace DocViewer

/-- The lines, each with a newline behind it. -/
def unlines (ts : List Text) : Text := ts.flatMap (· ++ ['\n'])

/-- A line is read up to its newline. -/
theorem linesFrom_append {t : Text} (h : '\n' ∉ t) (found : List Text) (line rest : Text) :
    linesFrom found line (t ++ '\n' :: rest) =
      linesFrom ((dropReturn (t.reverse ++ line)).reverse :: found) [] rest := by
  induction t generalizing line with
  | nil => simp [linesFrom]
  | cons c t ih =>
    rw [List.mem_cons, not_or] at h
    rw [List.cons_append, linesFrom, if_neg (Ne.symm h.1), ih h.2]
    simp

/-- Nothing is dropped at the end of a line without a carriage return. -/
theorem dropReturn_eq_self {line : Text} (h : '\r' ∉ line) : dropReturn line = line := by
  unfold dropReturn
  split
  · exact absurd List.mem_cons_self h
  · rfl

/-- The lines found so far come first. -/
theorem linesFrom_found (found : List Text) (line t : Text) :
    linesFrom found line t = found.reverse ++ linesFrom [] line t := by
  induction t generalizing found line with
  | nil => by_cases h : line.isEmpty <;> simp [linesFrom, h]
  | cons c t ih =>
    rw [linesFrom, linesFrom]
    split
    · rw [ih, ih [_], List.reverse_cons, List.append_assoc, List.reverse_singleton]
    · exact ih found (c :: line)

/-- A text without a newline is one line. -/
theorem linesFrom_eq_self {t : Text} (h : '\n' ∉ t) (line : Text) (hne : line ≠ [] ∨ t ≠ []) :
    linesFrom [] line t = [line.reverse ++ t] := by
  induction t generalizing line with
  | nil =>
    have hline : line ≠ [] := hne.resolve_right fun hnil => hnil rfl
    simp [linesFrom, hline]
  | cons c t ih =>
    rw [List.mem_cons, not_or] at h
    rw [linesFrom, if_neg (Ne.symm h.1), ih h.2 _ (.inl (List.cons_ne_nil _ _))]
    simp

theorem linesFrom_unlines {ts : List Text} (h : ∀ t ∈ ts, '\n' ∉ t ∧ '\r' ∉ t) (found : List Text) :
    linesFrom found [] (unlines ts) = found.reverse ++ ts := by
  induction ts generalizing found with
  | nil => simp [unlines, linesFrom]
  | cons t ts ih =>
    obtain ⟨hline, hreturn⟩ := h t List.mem_cons_self
    have hkept : dropReturn (t.reverse ++ []) = t.reverse := by
      rw [List.append_nil]
      exact dropReturn_eq_self (by rwa [List.mem_reverse])
    rw [unlines, List.flatMap_cons, List.append_assoc, List.singleton_append, linesFrom_append hline, hkept,
      ← unlines, ih fun t ht => h t (List.mem_cons_of_mem _ ht)]
    simp

theorem lines_unlines {ts : List Text} (h : ∀ t ∈ ts, '\n' ∉ t ∧ '\r' ∉ t) : lines (unlines ts) = ts :=
  linesFrom_unlines h []

/-! ## Line after line -/

/-- A line without the carriage return at its end, if there is one. -/
def chomp (line : Text) : Text := (dropReturn line.reverse).reverse

/-- A line is read up to its newline, without a carriage return right before it. -/
theorem lines_append {line : Text} (h : '\n' ∉ line) (rest : Text) :
    lines (line ++ '\n' :: rest) = chomp line :: lines rest := by
  rw [lines, linesFrom_append h, linesFrom_found, List.append_nil]
  rfl

/-- A last line without a newline stays as it is. -/
theorem lines_eq_self {line : Text} (h : '\n' ∉ line) (hne : line ≠ []) : lines line = [line] :=
  linesFrom_eq_self h [] (.inr hne)

theorem chomp_return (line : Text) : chomp (line ++ ['\r']) = line := by
  rw [chomp, List.reverse_append, List.reverse_singleton, List.singleton_append, dropReturn, List.reverse_reverse]

theorem chomp_eq_self {line : Text} (h : line.getLast? ≠ some '\r') : chomp line = line := by
  obtain rfl | ⟨line, c, rfl⟩ := List.eq_nil_or_concat line
  · rfl
  · rw [List.concat_eq_append] at h ⊢
    rw [chomp, List.reverse_append, List.reverse_singleton, List.singleton_append, dropReturn, List.reverse_cons,
      List.reverse_reverse]
    rintro rest heq
    rw [(List.cons.inj heq).1, List.getLast?_concat] at h
    exact h rfl

/-- Nothing or a carriage return is dropped. -/
theorem chomp_append_return (line : Text) : line = chomp line ∨ line = chomp line ++ ['\r'] := by
  by_cases h : line.getLast? = some '\r'
  · obtain ⟨front, rfl⟩ := List.getLast?_eq_some_iff.mp h
    exact .inr (by rw [chomp_return])
  · exact .inl (chomp_eq_self h).symm

theorem isPrefix_chomp (line : Text) : chomp line <+: line := by
  obtain h | h := chomp_append_return line
  · exact ⟨[], by rw [← h, List.append_nil]⟩
  · exact ⟨_, h.symm⟩

/-- A carriage return is dropped at the end of what stands last. -/
theorem chomp_append {line : Text} (h : line ≠ []) (before : Text) : chomp (before ++ line) = before ++ chomp line := by
  by_cases hlast : line.getLast? = some '\r'
  · obtain ⟨front, rfl⟩ := List.getLast?_eq_some_iff.mp hlast
    rw [← List.append_assoc, chomp_return, chomp_return]
  · rw [chomp_eq_self hlast, chomp_eq_self]
    rwa [List.getLast?_append, Option.or_of_isSome (by simpa using h)]

/-! ## Between newlines -/

/-- The lines, each with a newline in front of it. -/
def nextLines (ls : List Text) : Text := ls.flatMap ('\n' :: ·)

theorem nextLines_cons (line : Text) (ls : List Text) : nextLines (line :: ls) = '\n' :: (line ++ nextLines ls) := rfl

/-- A text is the line in front of its first newline, with the others below. -/
theorem exists_nextLines (t : Text) : ∃ first ls, t = first ++ nextLines ls ∧ ∀ l ∈ first :: ls, '\n' ∉ l := by
  induction t with
  | nil => exact ⟨[], [], rfl, by simp⟩
  | cons c t ih =>
    obtain ⟨first, ls, rfl, hlines⟩ := ih
    by_cases hc : c = '\n'
    · subst hc
      exact ⟨[], first :: ls, rfl, List.forall_mem_cons.mpr ⟨List.not_mem_nil, hlines⟩⟩
    · obtain ⟨hfirst, hrest⟩ := List.forall_mem_cons.mp hlines
      have hcons : '\n' ∉ c :: first := List.not_mem_cons_of_ne_of_not_mem (Ne.symm hc) hfirst
      exact ⟨c :: first, ls, rfl, List.forall_mem_cons.mpr ⟨hcons, hrest⟩⟩

/-- Splitting at the newlines gives the lines back. -/
theorem splitOn_nextLines {first : Text} {ls : List Text} (h : ∀ l ∈ first :: ls, '\n' ∉ l) :
    (first ++ nextLines ls).splitOn '\n' = first :: ls := by
  induction ls generalizing first with
  | nil => rw [nextLines, List.flatMap_nil, List.append_nil, List.splitOn_eq_singleton (h first List.mem_cons_self)]
  | cons line ls ih =>
    obtain ⟨hfirst, hrest⟩ := List.forall_mem_cons.mp h
    rw [nextLines_cons, List.splitOn_append_cons_self_of_not_mem hfirst, ih hrest]

section NextLines

variable {line : Text} (h : '\n' ∉ line) (ls : List Text)
include h

theorem takeWhile_nextLines : (line ++ nextLines ls).takeWhile (· ≠ '\n') = line := by
  have hall : ∀ c ∈ line, decide (c ≠ '\n') = true := fun c hc => decide_eq_true fun heq => h (heq ▸ hc)
  rw [List.takeWhile_append_of_pos hall]
  cases ls with
  | nil => exact List.append_nil line
  | cons next ls => rw [nextLines_cons, List.takeWhile_cons_of_neg (by decide), List.append_nil]

theorem dropWhile_nextLines : (line ++ nextLines ls).dropWhile (· ≠ '\n') = nextLines ls := by
  have hall : ∀ c ∈ line, decide (c ≠ '\n') = true := fun c hc => decide_eq_true fun heq => h (heq ▸ hc)
  rw [List.dropWhile_append_of_pos hall]
  cases ls with
  | nil => rfl
  | cons next ls => rw [nextLines_cons, List.dropWhile_cons_of_neg (by decide)]

end NextLines

/-- A literal without a newline does not reach into the lines below. -/
theorem dropFold?_nextLines {p : Text} (hp : '\n' ∉ p) (line : Text) (ls : List Text) :
    dropFold? p (line ++ nextLines ls) = (dropFold? p line).map (· ++ nextLines ls) := by
  refine dropFold?_append_of_none (fun s hs hne => ?_) line
  obtain ⟨a, s, rfl⟩ := List.exists_cons_of_ne_nil hne
  cases ls with
  | nil => rfl
  | cons next ls =>
    have ha : fold '\n' ≠ a := by
      rintro rfl
      exact hp (hs.subset List.mem_cons_self)
    rw [nextLines_cons, dropFold?, if_neg ha]

/-! ## The first line -/

theorem firstLine_append {line : Text} (h : '\n' ∉ line) (rest : Text) :
    firstLine (line ++ '\n' :: rest) = chomp line := by
  rw [firstLine, lines_append h]
  rfl

theorem firstLine_eq_self {t : Text} (h : '\n' ∉ t) : firstLine t = t := by
  by_cases hne : t = []
  · rw [hne]
    rfl
  · rw [firstLine, lines_eq_self h hne]
    rfl

/-- A carriage return at the end of a line is white space. -/
theorem trim_chomp (line : Text) : trim (chomp line) = trim line := by
  obtain h | h := chomp_append_return line
  · rw [← h]
  · have hblank : isBlank '\r' = true := by decide
    rw [h, trim_append_blank hblank, chomp_return]

/-- Trimmed, the first line is what stands in front of the first newline. -/
theorem trim_firstLine (t : Text) : trim (firstLine t) = trim (t.takeWhile (· ≠ '\n')) := by
  have hline : '\n' ∉ t.takeWhile (· ≠ '\n') := fun h => by simpa using List.mem_takeWhile_imp h
  cases hrest : t.dropWhile (· ≠ '\n') with
  | nil =>
    have ht : t.takeWhile (· ≠ '\n') = t := by
      rw [← List.append_nil (t.takeWhile _), ← hrest, List.takeWhile_append_dropWhile]
    rw [ht] at hline ⊢
    rw [firstLine_eq_self hline]
  | cons c rest =>
    have hc : c = '\n' := by
      have hhead := List.head_dropWhile_not (· ≠ '\n') (by rw [hrest]; exact List.cons_ne_nil c rest)
      simp only [hrest, List.head_cons] at hhead
      simpa using hhead
    have ht : t = t.takeWhile (· ≠ '\n') ++ '\n' :: rest := by
      rw [hc] at hrest
      rw [← hrest, List.takeWhile_append_dropWhile]
    have hfirst := firstLine_append hline rest
    rw [← ht] at hfirst
    rw [hfirst, trim_chomp]

end DocViewer
