import DocViewer.Proofs.Text.Lines
import DocViewer.Proofs.Text.Places
import DocViewer.Proofs.Text.Spelling
import DocViewer.Stl.Page

/-!
# Cells with code, line by line

A cell of a page of the library is shown as code if it holds nothing but one line in a teletype font (`CellAt`). What
`preformatCells` does to a page is said line by line (`Preformatted`): the line of code becomes a block, the end of the
cell is taken off the next line, and every other line stays as it is.

- `preformatCells_nextLines`: below the first line the page is rewritten two lines at a time (`preformatLines`).
- `preformatLines_cell`, `preformatLines_other`: what becomes of the line at a place.
- `preformatCells_lines` puts these together.
-/

namespace DocViewer.Stl

/-- Line `i` is below another one and holds nothing but the code in a teletype font, and the next line starts with the
end of a cell, which `after` follows. -/
structure CellAt (ls : List Text) (i : Nat) (code after : Text) : Prop where
  below : 0 < i
  line : ∃ opening closing, ls[i]? = some (opening ++ (code ++ closing)) ∧
    opening.map Char.toLower = "<tt>".toList ∧ closing.map Char.toLower = "</tt>".toList
  next : ∃ ending, ls[i + 1]? = some (ending ++ after) ∧ ending.map Char.toLower = "</td>".toList

/-- Code as a block at the end of its cell. -/
def codeBlock (code : Text) : Text := "<pre>".toList ++ (code ++ "</pre></td>".toList)

/-- The lines `ls'` are the lines `ls` with every cell of code as a block. -/
structure Preformatted (ls ls' : List Text) : Prop where
  count : ls'.length = ls.length
  code : ∀ {i code after}, CellAt ls i code after → ls'[i]? = some (codeBlock code)
  next : ∀ {i code after}, CellAt ls i code after → ls'[i + 1]? = some after
  other : ∀ {i}, (∀ code after, ¬CellAt ls i code after) → (∀ j code after, i = j + 1 → ¬CellAt ls j code after) →
    ls'[i]? = ls[i]?
  alone : ∀ {i opening rest}, ls[i]? = some (opening ++ rest) → opening.map Char.toLower = "<tt>".toList →
    (∀ code after, ¬CellAt ls i code after) → ls'[i]? = ls[i]?

/-! ## One cell -/

/-- What stands between `<tt>` at the start of the line and `</tt>` at its end. -/
def code? (line : Text) : Option Text := (dropFold? "<tt>".toList line).bind (dropSuffixFold? "</tt>".toList)

/-- The code on a line, and what follows the end of its cell on the next line. -/
def cell? (line next : Text) : Option (Text × Text) := do
  let code ← code? line
  let after ← dropFold? "</td>".toList next
  return (code, after)

theorem code?_eq_some {line code : Text} : code? line = some code ↔
    ∃ opening closing, line = opening ++ (code ++ closing) ∧ opening.map fold = "<tt>".toList ∧
      closing.map fold = "</tt>".toList := by
  simp only [code?, Option.bind_eq_some_iff, dropFold?_eq_some, dropSuffixFold?_eq_some]
  constructor
  · rintro ⟨rest, ⟨opening, rfl, hopening⟩, closing, rfl, hclosing⟩
    exact ⟨opening, closing, rfl, hopening, hclosing⟩
  · rintro ⟨opening, closing, rfl, hopening, hclosing⟩
    exact ⟨_, ⟨opening, rfl, hopening⟩, closing, rfl, hclosing⟩

theorem cell?_eq_some {line next code after : Text} :
    cell? line next = some (code, after) ↔ code? line = some code ∧ dropFold? "</td>".toList next = some after := by
  simp only [cell?, Option.bind_eq_bind, Option.bind_eq_some_iff, Option.pure_def, Option.some.injEq, Prod.mk.injEq]
  constructor
  · rintro ⟨_, hcode, _, hafter, rfl, rfl⟩
    exact ⟨hcode, hafter⟩
  · rintro ⟨hcode, hafter⟩
    exact ⟨_, hcode, _, hafter, rfl, rfl⟩

/-- The line at the end of a cell is no line of code. -/
theorem code?_of_cell {line next code after : Text} (h : cell? line next = some (code, after)) : code? next = none := by
  obtain ⟨ending, rfl, hending⟩ := dropFold?_eq_some.mp (cell?_eq_some.mp h).2
  rw [code?, dropFold?_eq_none (q := "</td>".toList) (by decide) hending]
  rfl

/-! ## The lines below the first one -/

theorem starts_teletypeCell? : Starts '\n' teletypeCell? := by
  intro c t hc
  rw [teletypeCell?, starts_dropPrefix? (a := '\n') rfl c t hc]
  rfl

theorem teletypeLine?_nextLines {line : Text} (h : '\n' ∉ line) (ls : List Text) :
    teletypeLine? (line ++ nextLines ls) = (code? line).map (·, nextLines ls) := by
  rw [teletypeLine?, takeWhile_nextLines h, dropWhile_nextLines h, code?]
  cases dropFold? "<tt>".toList line with
  | none => rfl
  | some rest =>
    simp only [Option.bind_eq_bind, Option.bind_some, Option.pure_def]
    cases dropSuffixFold? "</tt>".toList rest <;> rfl

/-- A cell is found on a line and the next one. -/
theorem teletypeCell?_nextLines {line : Text} (h : '\n' ∉ line) (next : Text) (ls : List Text) :
    teletypeCell? (nextLines (line :: next :: ls)) =
      (cell? line next).map fun (code, after) => ('\n' :: (codeBlock code ++ ['\n']), after ++ nextLines ls) := by
  have hnewline : dropPrefix? "\n".toList ('\n' :: (line ++ nextLines (next :: ls))) = some (line ++ nextLines (next :: ls)) :=
    dropPrefix?_eq_some.mpr rfl
  have hend : dropFold? "\n</td>".toList (nextLines (next :: ls)) =
      (dropFold? "</td>".toList next).map (· ++ nextLines ls) := by
    rw [← dropFold?_nextLines (by decide)]
    rfl
  have hblock : ∀ code, "\n<pre>".toList ++ code ++ "</pre></td>\n".toList = '\n' :: (codeBlock code ++ ['\n']) := by
    intro code
    have hopen : "\n<pre>".toList = '\n' :: "<pre>".toList := by decide
    have hclose : "</pre></td>\n".toList = "</pre></td>".toList ++ ['\n'] := by decide
    change _ = '\n' :: ("<pre>".toList ++ (code ++ "</pre></td>".toList) ++ ['\n'])
    simp only [hopen, hclose, List.cons_append, List.append_assoc]
  rw [nextLines_cons, teletypeCell?, hnewline]
  simp only [Option.bind_eq_bind, Option.bind_some, Option.pure_def, teletypeLine?_nextLines h]
  cases hcode : code? line with
  | none =>
    rw [cell?, hcode]
    rfl
  | some code =>
    simp only [Option.map_some, Option.bind_some, hend, hblock]
    rw [cell?, hcode]
    cases dropFold? "</td>".toList next <;> rfl

/-- There is no cell on the last line. -/
theorem teletypeCell?_last {line : Text} (h : '\n' ∉ line) : teletypeCell? (nextLines [line]) = none := by
  have hnewline : dropPrefix? "\n".toList ('\n' :: (line ++ nextLines [])) = some (line ++ nextLines []) :=
    dropPrefix?_eq_some.mpr rfl
  rw [nextLines_cons, teletypeCell?, hnewline]
  simp only [Option.bind_eq_bind, Option.bind_some, teletypeLine?_nextLines h]
  cases code? line <;> rfl

/-- The lines below the first one, with cells of code as blocks. -/
def preformatLines : List Text → List Text
  | line :: next :: ls =>
    match cell? line next with
    | some (code, after) => codeBlock code :: after :: preformatLines ls
    | none => line :: preformatLines (next :: ls)
  | ls => ls

/-- A line on which no cell starts is passed over. -/
theorem preformatCells_line {line : Text} (h : '\n' ∉ line) {ls : List Text}
    (hnone : teletypeCell? (nextLines (line :: ls)) = none) :
    preformatCells (nextLines (line :: ls)) = '\n' :: (line ++ preformatCells (nextLines ls)) := by
  rw [nextLines_cons] at hnone ⊢
  rw [preformatCells, replaceAll_cons, hnone]
  simp only
  rw [replaceAll_append _ (starts_teletypeCell?.clear h _), preformatCells]

theorem preformatCells_nextLines {ls : List Text} (h : ∀ l ∈ ls, '\n' ∉ l) :
    preformatCells (nextLines ls) = nextLines (preformatLines ls) := by
  fun_induction preformatLines ls with
  | case1 line next ls code after hcell ih =>
    obtain ⟨hline, hbelow⟩ := List.forall_mem_cons.mp h
    obtain ⟨hnext, hls⟩ := List.forall_mem_cons.mp hbelow
    obtain ⟨ending, rfl, -⟩ := dropFold?_eq_some.mp (cell?_eq_some.mp hcell).2
    have hafter : '\n' ∉ after := fun hin => hnext (List.mem_append_right _ hin)
    have hhere : teletypeCell? (nextLines (line :: (ending ++ after) :: ls)) =
        some ('\n' :: (codeBlock code ++ ['\n']), after ++ nextLines ls) := by
      rw [teletypeCell?_nextLines hline, hcell]
      rfl
    rw [preformatCells, replaceAll_of_some _ hhere, replaceAll_append _ (starts_teletypeCell?.clear hafter _),
      ← preformatCells, ih hls]
    simp [nextLines_cons]
  | case2 line next ls hcell ih =>
    obtain ⟨hline, hbelow⟩ := List.forall_mem_cons.mp h
    have hnone : teletypeCell? (nextLines (line :: next :: ls)) = none := by
      rw [teletypeCell?_nextLines hline, hcell]
      rfl
    rw [preformatCells_line hline hnone, ih hbelow, nextLines_cons]
  | case3 ls hshort =>
    cases ls with
    | nil => exact replaceAll_nil ..
    | cons line ls =>
      cases ls with
      | nil =>
        have hline := h line List.mem_cons_self
        rw [preformatCells_line hline (teletypeCell?_last hline), nextLines_cons]
        congr 2
        exact replaceAll_nil ..
      | cons next ls => exact absurd rfl (hshort line next ls)

/-! ## The line at a place -/

/-- The cell that starts on line `i`. -/
def cellAt? (ls : List Text) (i : Nat) : Option (Text × Text) := do
  let line ← ls[i]?
  let next ← ls[i + 1]?
  cell? line next

/-- No cell starts on the line at the end of another. -/
theorem cellAt?_behind {line next code after : Text} (h : cell? line next = some (code, after)) (ls : List Text) :
    cellAt? (line :: next :: ls) 1 = none := by
  have hnext := code?_of_cell h
  cases ls with
  | nil => rfl
  | cons further ls => exact congrArg (Option.bind · _) hnext

theorem length_preformatLines (ls : List Text) : (preformatLines ls).length = ls.length := by
  fun_induction preformatLines ls with
  | case1 line next ls code after hcell ih => simp [ih]
  | case2 line next ls hcell ih => simpa using ih
  | case3 ls hshort => rfl

/-- A cell of code becomes a block, and its end is taken off the next line. -/
theorem preformatLines_cell {ls : List Text} {i : Nat} {code after : Text} (h : cellAt? ls i = some (code, after)) :
    (preformatLines ls)[i]? = some (codeBlock code) ∧ (preformatLines ls)[i + 1]? = some after := by
  fun_induction preformatLines ls generalizing i with
  | case1 line next ls code' after' hcell ih =>
    match i with
    | 0 =>
      obtain ⟨rfl, rfl⟩ := Prod.mk.inj (Option.some.inj (hcell.symm.trans h))
      exact ⟨rfl, rfl⟩
    | 1 =>
      rw [cellAt?_behind hcell] at h
      cases h
    | i + 2 => exact ih h
  | case2 line next ls hcell ih =>
    cases i with
    | zero => cases hcell.symm.trans h
    | succ i => exact ih h
  | case3 ls hshort =>
    match ls with
    | [] => cases h
    | [line] => cases i <;> cases h
    | line :: next :: ls => exact absurd rfl (hshort line next ls)

/-- Every other line stays as it is. -/
theorem preformatLines_other {ls : List Text} {i : Nat} (h : cellAt? ls i = none)
    (hbefore : ∀ j, i = j + 1 → cellAt? ls j = none) : (preformatLines ls)[i]? = ls[i]? := by
  fun_induction preformatLines ls generalizing i with
  | case1 line next ls code' after' hcell ih =>
    match i with
    | 0 => cases hcell.symm.trans h
    | 1 => cases hcell.symm.trans (hbefore 0 rfl)
    | i + 2 => exact ih h fun j hj => hbefore (j + 2) (congrArg (· + 2) hj)
  | case2 line next ls hcell ih =>
    cases i with
    | zero => rfl
    | succ i => exact ih h fun j hj => hbefore (j + 1) (congrArg (· + 1) hj)
  | case3 ls hshort => rfl

theorem not_mem_preformatLines {ls : List Text} (h : ∀ l ∈ ls, '\n' ∉ l) : ∀ l ∈ preformatLines ls, '\n' ∉ l := by
  fun_induction preformatLines ls with
  | case1 line next ls code after hcell ih =>
    obtain ⟨hline, hbelow⟩ := List.forall_mem_cons.mp h
    obtain ⟨hnext, hls⟩ := List.forall_mem_cons.mp hbelow
    obtain ⟨hcode, hafter⟩ := cell?_eq_some.mp hcell
    obtain ⟨opening, closing, rfl, -⟩ := code?_eq_some.mp hcode
    obtain ⟨ending, rfl, -⟩ := dropFold?_eq_some.mp hafter
    simp only [List.mem_append, not_or] at hline hnext
    refine List.forall_mem_cons.mpr ⟨?_, List.forall_mem_cons.mpr ⟨hnext.2, ih hls⟩⟩
    have hopen : '\n' ∉ "<pre>".toList := by decide
    have hclose : '\n' ∉ "</pre></td>".toList := by decide
    exact List.not_mem_append hopen (List.not_mem_append hline.2.1 hclose)
  | case2 line next ls hcell ih =>
    obtain ⟨hline, hbelow⟩ := List.forall_mem_cons.mp h
    exact List.forall_mem_cons.mpr ⟨hline, ih hbelow⟩
  | case3 ls hshort => exact h

/-! ## All the lines -/

theorem cellAt?_eq_some {first : Text} {ls : List Text} {i : Nat} {code after : Text} :
    cellAt? ls i = some (code, after) ↔ CellAt (first :: ls) (i + 1) code after := by
  have htt : IsPlain "<tt>".toList := by decide
  have hend : IsPlain "</tt>".toList := by decide
  have htd : IsPlain "</td>".toList := by decide
  simp only [cellAt?, Option.bind_eq_bind, Option.bind_eq_some_iff, cell?_eq_some, code?_eq_some, dropFold?_eq_some,
    map_fold_eq_iff htt, map_fold_eq_iff hend, map_fold_eq_iff htd]
  constructor
  · rintro ⟨line, hline, next, hnext, ⟨opening, closing, rfl, hopening, hclosing⟩, ending, rfl, hending⟩
    exact ⟨Nat.succ_pos i, ⟨opening, closing, hline, hopening, hclosing⟩, ending, hnext, hending⟩
  · rintro ⟨-, ⟨opening, closing, hline, hopening, hclosing⟩, ending, hnext, hending⟩
    exact ⟨_, hline, _, hnext, ⟨opening, closing, rfl, hopening, hclosing⟩, ending, rfl, hending⟩

/-- A line that starts with `<tt>` is not the one behind a cell. -/
theorem CellAt.next_ne {ls : List Text} {i : Nat} {code after : Text} (h : CellAt ls i code after)
    {opening rest : Text} (hline : ls[i + 1]? = some (opening ++ rest)) : opening.map Char.toLower ≠ "<tt>".toList := by
  obtain ⟨ending, hnext, hending⟩ := h.next
  intro hopening
  have heq : opening ++ rest = ending ++ after := Option.some.inj (hline.symm.trans hnext)
  have htt : "<tt>".toList <+: (opening ++ rest).map Char.toLower := hopening ▸ (opening.prefix_append rest).map _
  have htd : "</td>".toList <+: (opening ++ rest).map Char.toLower := heq ▸ hending ▸ (ending.prefix_append after).map _
  have hapart : Apart "<tt>".toList "</td>".toList := by decide
  exact (List.prefix_or_prefix_of_prefix htt htd).elim hapart.1 hapart.2

theorem preformatted_other {first : Text} {ls : List Text} {i : Nat}
    (h : ∀ code after, ¬CellAt (first :: ls) i code after)
    (hbefore : ∀ j code after, i = j + 1 → ¬CellAt (first :: ls) j code after) :
    (first :: preformatLines ls)[i]? = (first :: ls)[i]? := by
  cases i with
  | zero => rfl
  | succ i =>
    refine preformatLines_other ?_ fun j hj => ?_
    · exact Option.eq_none_iff_forall_ne_some.mpr fun ⟨code, after⟩ hcell => h code after (cellAt?_eq_some.mp hcell)
    · exact Option.eq_none_iff_forall_ne_some.mpr fun ⟨code, after⟩ hcell =>
        hbefore (j + 1) code after (congrArg (· + 1) hj) (cellAt?_eq_some.mp hcell)

theorem preformatted_lines (first : Text) (ls : List Text) :
    Preformatted (first :: ls) (first :: preformatLines ls) where
  count := congrArg (· + 1) (length_preformatLines ls)
  code := by
    intro i code after h
    obtain ⟨i, rfl⟩ := Nat.exists_eq_succ_of_ne_zero (Nat.ne_of_gt h.below)
    exact (preformatLines_cell (cellAt?_eq_some.mpr h)).1
  next := by
    intro i code after h
    obtain ⟨i, rfl⟩ := Nat.exists_eq_succ_of_ne_zero (Nat.ne_of_gt h.below)
    exact (preformatLines_cell (cellAt?_eq_some.mpr h)).2
  other := preformatted_other
  alone := by
    intro i opening rest hline hopening h
    refine preformatted_other h fun j code after hj hcell => ?_
    subst hj
    exact hcell.next_ne hline hopening

/-- The lines of a page with cells of code as blocks. -/
theorem preformatCells_first {first : Text} {ls : List Text} (h : ∀ l ∈ first :: ls, '\n' ∉ l) :
    preformatCells (first ++ nextLines ls) = first ++ nextLines (preformatLines ls) := by
  obtain ⟨hfirst, hls⟩ := List.forall_mem_cons.mp h
  rw [← preformatCells_nextLines hls]
  exact replaceAll_append _ (starts_teletypeCell?.clear hfirst _)

/-- **Cells of code, line by line.** Each cell becomes a block, adjacent ones too, and its code is kept whatever it holds.
Every other line stays as it is, and so does one in a teletype font that is no cell: on the first line, with more
around it, or with a carriage return at its end. -/
theorem preformatCells_lines (page : Text) :
    Preformatted (page.splitOn '\n') ((preformatCells page).splitOn '\n') := by
  obtain ⟨first, ls, rfl, hlines⟩ := exists_nextLines page
  obtain ⟨hfirst, hls⟩ := List.forall_mem_cons.mp hlines
  have hnew : ∀ l ∈ first :: preformatLines ls, '\n' ∉ l :=
    List.forall_mem_cons.mpr ⟨hfirst, not_mem_preformatLines hls⟩
  rw [preformatCells_first hlines, splitOn_nextLines hlines, splitOn_nextLines hnew]
  exact preformatted_lines first ls

/-- A first line and a line with a carriage return, which are no cells, and two cells one right behind the other. -/
def teletypeLines : List Text :=
  ["<tt>a</tt>".toList, "</td>".toList, "<tt>b</tt>\r".toList, "</td>".toList, "<TT>$1</tt><tt></TT>".toList,
    "</TD><td>".toList, "<tt>c</tt>".toList, "</td>.".toList]

def teletypePage : Text := ['\n'].intercalate teletypeLines

/-- The first of the two cells holds the end and the start of a tag, and its block keeps them. -/
theorem preformatCells_lines_adjacent :
    teletypePage.splitOn '\n' = teletypeLines ∧
    CellAt teletypeLines 4 "$1</tt><tt>".toList "<td>".toList ∧ CellAt teletypeLines 6 "c".toList ".".toList ∧
    (∀ code after, ¬CellAt teletypeLines 0 code after) ∧ (∀ code after, ¬CellAt teletypeLines 2 code after) ∧
    (preformatCells teletypePage).splitOn '\n' =
      ["<tt>a</tt>".toList, "</td>".toList, "<tt>b</tt>\r".toList, "</td>".toList,
        "<pre>$1</tt><tt></pre></td>".toList, "<td>".toList, "<pre>c</pre></td>".toList, ".".toList] := by
  have hpage : teletypePage.splitOn '\n' = teletypeLines := by decide
  have hlines := preformatCells_lines teletypePage
  rw [hpage] at hlines
  have hfirst : CellAt teletypeLines 4 "$1</tt><tt>".toList "<td>".toList :=
    ⟨by decide, ⟨"<TT>".toList, "</TT>".toList, rfl, rfl, rfl⟩, "</TD>".toList, rfl, rfl⟩
  have hsecond : CellAt teletypeLines 6 "c".toList ".".toList :=
    ⟨by decide, ⟨"<tt>".toList, "</tt>".toList, rfl, rfl, rfl⟩, "</td>".toList, rfl, rfl⟩
  have htop : ∀ code after, ¬CellAt teletypeLines 0 code after := fun _ _ h => absurd h.below (by decide)
  have hnone : ∀ i, cellAt? teletypeLines.tail i = none → ∀ code after, ¬CellAt teletypeLines (i + 1) code after :=
    fun i h code after hcell => by cases h.symm.trans (cellAt?_eq_some.mpr hcell)
  have hreturn : ∀ code after, ¬CellAt teletypeLines 2 code after := hnone 1 (by decide)
  refine ⟨hpage, hfirst, hsecond, htop, hreturn, List.ext_getElem? fun i => ?_⟩
  match i with
  | 0 => exact (hlines.other htop fun j _ _ hj => absurd hj (Nat.succ_ne_zero j).symm).trans (by decide)
  | 1 => exact (hlines.other (hnone 0 (by decide)) fun | 0, code, after, _ => htop code after).trans (by decide)
  | 2 => exact (hlines.alone (congrArg some (List.take_append_drop 4 _).symm) (by decide) hreturn).trans (by decide)
  | 3 => exact (hlines.other (hnone 2 (by decide)) fun | 2, code, after, _ => hreturn code after).trans (by decide)
  | 4 => exact (hlines.code hfirst).trans (by decide)
  | 5 => exact (hlines.next hfirst).trans (by decide)
  | 6 => exact (hlines.code hsecond).trans (by decide)
  | 7 => exact (hlines.next hsecond).trans (by decide)
  | i + 8 => exact List.getElem?_eq_none (hlines.count.trans_le (Nat.le_add_left 8 i))

end DocViewer.Stl
