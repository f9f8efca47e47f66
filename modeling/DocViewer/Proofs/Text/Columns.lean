import DocViewer.Proofs.Text.Lines
import DocViewer.Proofs.Text.Overstrike
import Mathlib.Data.List.Forall2

/-!
# Lines of a printer

A printer writes each character at its cursor, over what stood there, and moves the cursor on; a backspace moves the
cursor back, and erases nothing (`PrintedLine`). So a line in print shows the last character written at each column
(`getElem?_cells_of`).

Taking out overstrikes keeps what stands in front of the cursor at the end of each line
(`stripOverstrike_nextLines`): what the cursor has gone back over is erased even if nothing is written there again, as
in `not_forall_stripOverstrike_eq_inPrint`. This is so as long as no backspace goes back over a newline
(`StaysInLine`). `stripOverstrike_columns` says this by columns, and that the text is as in print exactly if the cursor
is at the end of each line in the end.
-/

namespace DocViewer

/-! ## Lines in print -/

/-- The column of the cursor after a character. -/
def move (column : Nat) (c : Char) : Nat := if c = backspace then column - 1 else column + 1

/-- The column of the cursor at the end of a line. -/
def cursor (line : Text) : Nat := line.foldl move 0

/-- The characters that are written from a column on, each with its column. -/
def writesFrom : (column : Nat) → Text → List (Nat × Char)
  | _, [] => []
  | column, c :: t =>
    if c = backspace then writesFrom (move column c) t else (column, c) :: writesFrom (move column c) t

/-- The last character that is written at a column of a line. -/
def lastWritten? (line : Text) (column : Nat) : Option Char := (writesFrom 0 line).reverse.lookup column

/-- No backspace comes at the start of the line, when the cursor is at the column. -/
def StaysFrom : (column : Nat) → Text → Prop
  | _, [] => True
  | column, c :: t => (c = backspace → 0 < column) ∧ StaysFrom (move column c) t

instance StaysFrom.decidable : (column : Nat) → (t : Text) → Decidable (StaysFrom column t)
  | _, [] => isTrue trivial
  | column, c :: t =>
    have := StaysFrom.decidable (move column c) t
    inferInstanceAs (Decidable ((c = backspace → 0 < column) ∧ StaysFrom (move column c) t))

/-- No backspace of the line comes at its start. -/
def StaysInLine (line : Text) : Prop := StaysFrom 0 line

instance (line : Text) : Decidable (StaysInLine line) := StaysFrom.decidable 0 line

/-- A line in print: what stands at its columns, and the column of the cursor. -/
structure PrintedLine where
  cells : Text
  cursor : Nat
  cursor_le : cursor ≤ cells.length

namespace PrintedLine

def blank : PrintedLine := ⟨[], 0, le_rfl⟩

/-- A character is written over what stands at the cursor. -/
def write (l : PrintedLine) (c : Char) : PrintedLine where
  cells := l.cells.take l.cursor ++ c :: l.cells.drop (l.cursor + 1)
  cursor := move l.cursor c
  cursor_le := by
    have := l.cursor_le
    simp only [move, List.length_append, List.length_cons, List.length_take, List.length_drop]
    split <;> omega

/-- A backspace moves the cursor only. -/
def back (l : PrintedLine) : PrintedLine where
  cells := l.cells
  cursor := move l.cursor backspace
  cursor_le := (Nat.sub_le _ 1).trans l.cursor_le

def type (l : PrintedLine) (c : Char) : PrintedLine := if c = backspace then l.back else l.write c

/-- The line in print, when all of it is typed. -/
def of (line : Text) : PrintedLine := line.foldl type blank

/-- What stands in front of the cursor. -/
def front (l : PrintedLine) : Text := l.cells.take l.cursor

end PrintedLine

/-- The text in print, line by line. -/
def inPrint (t : Text) : Text := ['\n'].intercalate ((t.splitOn '\n').map fun line => (PrintedLine.of line).cells)

namespace PrintedLine

theorem type_backspace (l : PrintedLine) : l.type backspace = l.back := if_pos rfl

theorem type_of_ne {c : Char} (h : c ≠ backspace) (l : PrintedLine) : l.type c = l.write c := if_neg h

theorem cursor_type (l : PrintedLine) (c : Char) : (l.type c).cursor = move l.cursor c := by
  unfold type
  split
  · rename_i hc
    rw [hc]
    rfl
  · rfl

theorem cursor_foldl_type (t : Text) (l : PrintedLine) : (t.foldl type l).cursor = t.foldl move l.cursor := by
  induction t generalizing l with
  | nil => rfl
  | cons c t ih => rw [List.foldl_cons, ih, cursor_type, List.foldl_cons]

theorem cursor_of (line : Text) : (of line).cursor = DocViewer.cursor line := cursor_foldl_type line blank

theorem length_front (l : PrintedLine) : l.front.length = l.cursor := List.length_take_of_le l.cursor_le

theorem getElem?_front (l : PrintedLine) (i : Nat) : l.front[i]? = if i < l.cursor then l.cells[i]? else none :=
  List.getElem?_take

/-- Only the column of the cursor changes. -/
theorem getElem?_write (l : PrintedLine) (c : Char) (i : Nat) :
    (l.write c).cells[i]? = if i = l.cursor then some c else l.cells[i]? := by
  have hle := l.cursor_le
  have hlength : (l.cells.take l.cursor).length = l.cursor := List.length_take_of_le hle
  rw [write, List.getElem?_append, hlength, List.getElem?_take]
  obtain hlt | rfl | hgt := Nat.lt_trichotomy i l.cursor
  · rw [if_pos hlt, if_pos hlt, if_neg (Nat.ne_of_lt hlt)]
  · rw [if_neg (Nat.lt_irrefl _), if_pos rfl, Nat.sub_self, List.getElem?_cons_zero]
  · obtain ⟨k, rfl⟩ := Nat.exists_eq_add_of_lt hgt
    have hoffset : l.cursor + k + 1 - l.cursor = k + 1 := by omega
    have hsum : l.cursor + 1 + k = l.cursor + k + 1 := by omega
    rw [if_neg (Nat.not_lt_of_gt hgt), if_neg (Nat.ne_of_gt hgt), hoffset, List.getElem?_cons_succ,
      List.getElem?_drop, hsum]

/-- A column holds what was written there last, or else what stood there. -/
theorem getElem?_foldl_type (t : Text) (l : PrintedLine) (i : Nat) :
    (t.foldl type l).cells[i]? = ((writesFrom l.cursor t).reverse.lookup i).or l.cells[i]? := by
  induction t generalizing l with
  | nil => rfl
  | cons c t ih =>
    rw [List.foldl_cons, ih, cursor_type, writesFrom]
    split
    · rename_i hc
      rw [hc, type_backspace]
      rfl
    · rename_i hc
      rw [type_of_ne hc, getElem?_write, List.reverse_cons, List.lookup_append, Option.or_assoc, List.lookup_cons]
      by_cases hi : i = l.cursor
      · rw [if_pos hi, beq_iff_eq.mpr hi]
        rfl
      · rw [if_neg hi, beq_eq_false_iff_ne.mpr hi]
        rfl

/-- A line in print shows the last character written at each column. -/
theorem getElem?_cells_of (line : Text) (i : Nat) : (of line).cells[i]? = lastWritten? line i := by
  rw [of, getElem?_foldl_type, lastWritten?]
  exact Option.or_none

theorem mem_of_mem_writesFrom {t : Text} {column i : Nat} {c : Char} (h : (i, c) ∈ writesFrom column t) : c ∈ t := by
  induction t generalizing column with
  | nil => cases h
  | cons d t ih =>
    rw [writesFrom] at h
    split at h
    · exact List.mem_cons_of_mem d (ih h)
    · obtain heq | h := List.mem_cons.mp h
      · exact (Prod.mk.inj heq).2 ▸ List.mem_cons_self
      · exact List.mem_cons_of_mem d (ih h)

theorem mem_of_mem_cells {line : Text} {c : Char} (h : c ∈ (of line).cells) : c ∈ line := by
  obtain ⟨i, hi⟩ := List.mem_iff_getElem?.mp h
  rw [getElem?_cells_of, lastWritten?, List.lookup_eq_some_iff] at hi
  obtain ⟨later, earlier, hwrites, -⟩ := hi
  have hmem : (i, c) ∈ (writesFrom 0 line).reverse := hwrites ▸ List.mem_append_right later List.mem_cons_self
  exact mem_of_mem_writesFrom (List.mem_reverse.mp hmem)

/-! ## What stands in front of the cursor -/

theorem front_back (l : PrintedLine) : l.back.front = l.front.dropLast := by
  rw [List.dropLast_eq_take, length_front, front, front, List.take_take, Nat.min_eq_left (Nat.sub_le _ 1)]
  rfl

theorem front_write {c : Char} (h : c ≠ backspace) (l : PrintedLine) : (l.write c).front = l.front ++ [c] := by
  have hlength : (l.front ++ [c]).length = move l.cursor c := by
    rw [List.length_append, length_front, move, if_neg h, List.length_singleton]
  have hcells : (l.write c).cells = (l.front ++ [c]) ++ l.cells.drop (l.cursor + 1) := by
    rw [List.append_assoc, List.singleton_append]
    rfl
  rw [front, hcells]
  exact List.take_left' hlength

/-- Striking and erasing is what happens in front of the cursor. -/
theorem reverse_front_type (l : PrintedLine) (c : Char) : (l.type c).front.reverse = strike l.front.reverse c := by
  by_cases hc : c = backspace
  · rw [hc, type_backspace, strike_backspace, List.tail_reverse, front_back]
  · rw [type_of_ne hc, strike_of_ne hc, front_write hc, List.reverse_append, List.reverse_singleton,
      List.singleton_append]

theorem reverse_front_foldl_type (t : Text) (l : PrintedLine) :
    (t.foldl type l).front.reverse = t.foldl strike l.front.reverse := by
  induction t generalizing l with
  | nil => rfl
  | cons c t ih => rw [List.foldl_cons, ih, reverse_front_type, List.foldl_cons]

end PrintedLine

open PrintedLine

/-- Striking in a line leaves alone what stands in front of the line. -/
theorem foldl_strike_append {text t : Text} (h : StaysFrom text.length t) (before : Text) :
    t.foldl strike (text ++ before) = t.foldl strike text ++ before := by
  induction t generalizing text with
  | nil => rfl
  | cons c t ih =>
    obtain ⟨hback, hstays⟩ := h
    rw [List.foldl_cons, List.foldl_cons]
    by_cases hc : c = backspace
    · have hne : text ≠ [] := List.length_pos_iff.mp (hback hc)
      rw [move, if_pos hc, ← List.length_tail] at hstays
      rw [hc, strike_backspace, strike_backspace, List.tail_append_of_ne_nil hne, ih hstays]
    · rw [move, if_neg hc, ← List.length_cons] at hstays
      rw [strike_of_ne hc, strike_of_ne hc, ← List.cons_append, ih hstays]

/-- A line that stays in itself is stripped to what stands in front of its cursor, whatever stands in front of it. -/
theorem foldl_strike_line {line : Text} (h : StaysInLine line) (before : Text) :
    line.foldl strike before = (of line).front.reverse ++ before := by
  have hstays : StaysFrom ([] : Text).length line := h
  rw [of, reverse_front_foldl_type]
  exact foldl_strike_append hstays before

theorem foldl_strike_nextLines {ls : List Text} (h : ∀ line ∈ ls, StaysInLine line) (before : Text) :
    (nextLines ls).foldl strike before = (nextLines (ls.map fun line => (of line).front)).reverse ++ before := by
  induction ls generalizing before with
  | nil => rfl
  | cons line ls ih =>
    obtain ⟨hline, hrest⟩ := List.forall_mem_cons.mp h
    have hnewline : '\n' ≠ backspace := by decide
    rw [nextLines_cons, List.foldl_cons, strike_of_ne hnewline, List.foldl_append, foldl_strike_line hline, ih hrest,
      List.map_cons, nextLines_cons, List.reverse_cons, List.reverse_append]
    simp only [List.append_assoc, List.singleton_append]

/-- Each line is stripped to what stands in front of its cursor. -/
theorem stripOverstrike_nextLines (first : Text) {ls : List Text} (h : ∀ line ∈ ls, StaysInLine line) :
    stripOverstrike (first ++ nextLines ls) = (of first).front ++ nextLines (ls.map fun line => (of line).front) := by
  have hfirst : first.foldl strike [] = (of first).front.reverse := (reverse_front_foldl_type first blank).symm
  rw [stripOverstrike, List.foldl_append, hfirst, foldl_strike_nextLines h, List.reverse_append, List.reverse_reverse,
    List.reverse_reverse]

/-! ## Line by line -/

theorem newline_not_mem_of_mem_splitOn {t line : Text} (h : line ∈ t.splitOn '\n') : '\n' ∉ line := by
  obtain ⟨first, ls, rfl, hlines⟩ := exists_nextLines t
  rw [splitOn_nextLines hlines] at h
  exact hlines line h

theorem splitOn_inPrint (t : Text) :
    (inPrint t).splitOn '\n' = (t.splitOn '\n').map fun line => (of line).cells := by
  refine List.splitOn_intercalate '\n' ?_ (List.map_eq_nil_iff.not.mpr (List.splitOn_ne_nil _ _))
  intro shown hshown
  obtain ⟨line, hline, rfl⟩ := List.mem_map.mp hshown
  exact fun hmem => newline_not_mem_of_mem_splitOn hline (mem_of_mem_cells hmem)

/-- The lines stay apart if no backspace goes back over a newline. -/
theorem splitOn_stripOverstrike {t : Text} (h : ∀ line ∈ (t.splitOn '\n').tail, StaysInLine line) :
    (stripOverstrike t).splitOn '\n' = (t.splitOn '\n').map fun line => (of line).front := by
  obtain ⟨first, ls, rfl, hlines⟩ := exists_nextLines t
  rw [splitOn_nextLines hlines] at h ⊢
  have hstays : ∀ line ∈ ls, StaysInLine line := h
  have hfront : ∀ left ∈ (first :: ls).map fun line => (of line).front, '\n' ∉ left := by
    intro left hleft
    obtain ⟨line, hline, rfl⟩ := List.mem_map.mp hleft
    exact fun hmem => hlines line hline (mem_of_mem_cells (List.mem_of_mem_take hmem))
  rw [stripOverstrike_nextLines first hstays]
  exact splitOn_nextLines hfront

/-- Nothing of a line stands behind its cursor exactly if nothing is written there. -/
theorem front_eq_cells_iff {line : Text} :
    (of line).front = (of line).cells ↔ ∀ i, (lastWritten? line i).isSome → i < cursor line := by
  constructor
  · intro heq i hi
    rw [← getElem?_cells_of, ← heq, getElem?_front, cursor_of] at hi
    by_contra hlt
    rw [if_neg hlt] at hi
    cases hi
  · intro h
    refine List.take_of_length_le (Nat.not_lt.mp fun hlt => ?_)
    have hwritten := h (of line).cursor (by rw [← getElem?_cells_of, List.getElem?_eq_getElem hlt]; rfl)
    rw [cursor_of] at hwritten
    exact Nat.lt_irrefl _ hwritten

/-- The text is left as in print exactly if each line is. -/
theorem stripOverstrike_eq_inPrint_iff {t : Text} (h : ∀ line ∈ (t.splitOn '\n').tail, StaysInLine line) :
    stripOverstrike t = inPrint t ↔ ∀ line ∈ t.splitOn '\n', (of line).front = (of line).cells := by
  rw [← List.map_inj_left, ← splitOn_stripOverstrike h, ← splitOn_inPrint]
  constructor
  · exact congrArg _
  · intro hlines
    have hjoined := congrArg ['\n'].intercalate hlines
    rwa [List.intercalate_splitOn, List.intercalate_splitOn] at hjoined

/-- In print, each line shows the last character written at each column. -/
theorem inPrint_columns (t : Text) :
    List.Forall₂ (fun line shown => ∀ i : Nat, shown[i]? = lastWritten? line i)
      (t.splitOn '\n') ((inPrint t).splitOn '\n') := by
  rw [splitOn_inPrint, List.forall₂_map_right_iff, List.forall₂_same]
  exact fun line _ => getElem?_cells_of line

/-- **Overstrikes by columns.** If no backspace goes back over a newline, what is left is, line by line, the last
character written at each column in front of the place where the cursor ends. It is the text in print, with the last
character at every column, exactly if the cursor ends behind all that is written on its line. -/
theorem stripOverstrike_columns (t : Text) (h : ∀ line ∈ (t.splitOn '\n').tail, StaysInLine line) :
    List.Forall₂ (fun line left => ∀ i : Nat, left[i]? = if i < cursor line then lastWritten? line i else none)
      (t.splitOn '\n') ((stripOverstrike t).splitOn '\n') ∧
    List.Forall₂ (fun line shown => ∀ i : Nat, shown[i]? = lastWritten? line i)
      (t.splitOn '\n') ((inPrint t).splitOn '\n') ∧
    (stripOverstrike t = inPrint t ↔
      ∀ line ∈ t.splitOn '\n', ∀ i, (lastWritten? line i).isSome → i < cursor line) := by
  refine ⟨?_, inPrint_columns t, ?_⟩
  · rw [splitOn_stripOverstrike h, List.forall₂_map_right_iff, List.forall₂_same]
    intro line _ i
    rw [getElem?_front, cursor_of, getElem?_cells_of]
  · rw [stripOverstrike_eq_inPrint_iff h]
    exact forall₂_congr fun _ _ => front_eq_cells_iff

/-- A text that starts with a backspace, with a line whose end is gone back over and one that is struck twice. -/
def struckBack : Text := "\x08xyz\x08\x08-\n_\x08a_\x08b".toList

/-- The column behind the cursor is lost from the first line, where print shows it. -/
theorem stripOverstrike_columns_struckBack :
    (∀ line ∈ (struckBack.splitOn '\n').tail, StaysInLine line) ∧
    List.Forall₂ (fun line left => ∀ i : Nat, left[i]? = if i < cursor line then lastWritten? line i else none)
      ["\x08xyz\x08\x08-".toList, "_\x08a_\x08b".toList] ["x-".toList, "ab".toList] ∧
    stripOverstrike struckBack ≠ inPrint struckBack := by
  have hstays : ∀ line ∈ (struckBack.splitOn '\n').tail, StaysInLine line := by decide
  have hlines : struckBack.splitOn '\n' = ["\x08xyz\x08\x08-".toList, "_\x08a_\x08b".toList] := by decide
  have hleft : (stripOverstrike struckBack).splitOn '\n' = ["x-".toList, "ab".toList] := by decide
  obtain ⟨hcolumns, -, hprinted⟩ := stripOverstrike_columns struckBack hstays
  rw [hlines, hleft] at hcolumns
  rw [hlines] at hprinted
  refine ⟨hstays, hcolumns, fun heq => ?_⟩
  have hbehind : 2 < cursor "\x08xyz\x08\x08-".toList := hprinted.mp heq _ List.mem_cons_self 2 (by decide)
  exact absurd hbehind (by decide)

/-- What the cursor went back over is printed, but not left. -/
theorem not_forall_stripOverstrike_eq_inPrint :
    stripOverstrike "ab\x08".toList = "a".toList ∧ inPrint "ab\x08".toList = "ab".toList ∧
    ¬∀ t, stripOverstrike t = inPrint t := by
  have hleft : stripOverstrike "ab\x08".toList = "a".toList := by decide
  have hshown : inPrint "ab\x08".toList = "ab".toList := by decide
  refine ⟨hleft, hshown, fun h => ?_⟩
  have hsame := h "ab\x08".toList
  rw [hleft, hshown] at hsame
  exact absurd hsame (by decide)

end DocViewer
