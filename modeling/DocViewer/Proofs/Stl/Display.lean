import DocViewer.Proofs.Stl.Cells

/-!
# Pages ready for display

A page of the library is made ready in two passes, and neither disturbs the other: putting in the base tag and turning
cells of code into blocks may change places (`displayPage_passes`). A `<head>` stands on one line, and what the second
pass takes off a line or puts there does not touch it.

- `PutIn`: a tag is put in behind the first `<head>` of a text; `PutInLine`: behind the first one of some lines.
- `PutIn.cell?_line`, `PutIn.cell?_next`: the tag does not make a cell of two lines, nor break one.
- `PutInLine.preformatLines`: it is put in before cells become blocks, or after that.
- `behindHead?_preformatCells`: the same for pages.
-/

namespace DocViewer.Stl

/-! ## Putting in a tag -/

/-- The text with the tag put in behind its first `<head>`. -/
def behindHead? (tag t : Text) : Option Text :=
  (splitFirst? headTag? t).map fun (before, head, after) => before ++ (head ++ (tag ++ after))

theorem insertBase_eq (base page : Text) :
    insertBase base page = (behindHead? (baseTag base) page).getD (baseTag base ++ page) := by
  unfold insertBase behindHead?
  cases splitFirst? headTag? page <;> simp

/-- No `<head>` stands in the text. -/
def NoHead (t : Text) : Prop := Clear (dropFold? "<head>".toList) t []

theorem clear_headTag? {p t : Text} : Clear headTag? p t ↔ Clear (dropFold? "<head>".toList) p t := by
  induction p with
  | nil => rfl
  | cons c p ih => exact and_congr Option.map_eq_none_iff ih

/-- No `<head>` starts in a text without one, though another tag follows. -/
theorem NoHead.clear {t : Text} (h : NoHead t) {q : Text} (hq : ∀ s ∈ "head>".toList.tails, s ≠ [] → Apart s q)
    {w : Text} (hw : w ∈ spellings q) (rest : Text) : Clear (dropFold? "<head>".toList) t (w ++ rest) :=
  (clear_append_spelling (p := "<head>".toList) hq hw rest).mpr h

/-- A literal that is apart from every `<head>` does not start one. -/
theorem clear_head_literal {q : Text} (hq : ∀ s ∈ q.tails, s ≠ [] → Apart "<head>".toList s) {w : Text}
    (hw : w ∈ spellings q) (t : Text) : Clear (dropFold? "<head>".toList) w t :=
  (heads_dropFold? _).clear_spelling hq hw t

/-- The text `t'` is `t` with the tag put in behind the first `<head>`. -/
inductive PutIn (tag : Text) : Text → Text → Prop
  | behind {before head : Text} (hbefore : NoHead before) (hhead : head ∈ spellings "<head>".toList) (after : Text) :
      PutIn tag (before ++ (head ++ after)) (before ++ (head ++ (tag ++ after)))

/-- A text has a first `<head>`, or none. -/
theorem noHead_or (tag t : Text) : NoHead t ∨ ∃ t', PutIn tag t t' := by
  induction t with
  | nil => exact .inl trivial
  | cons c t ih =>
    cases hhere : dropFold? "<head>".toList (c :: t) with
    | some after =>
      obtain ⟨head, hhead, heq⟩ := (drops_dropFold? _ _ _).mp hhere
      have hnil : NoHead [] := trivial
      rw [heq]
      exact .inr ⟨_, .behind hnil hhead after⟩
    | none =>
      obtain hno | ⟨_, @⟨before, head, hbefore, hhead, after⟩⟩ := ih
      · exact .inl ⟨by rwa [List.append_nil], hno⟩
      · -- none starts at `c`, and none that starts in `before` would reach into the next one
        have hclear : Clear (dropFold? "<head>".toList) (c :: before) (head ++ after) :=
          ⟨hhere, hbefore.clear (by decide) hhead after⟩
        exact .inr ⟨_, .behind ((clear_append_spelling (by decide) hhead after).mp hclear) hhead after⟩

section Behind

variable {tag : Text}

theorem behindHead?_of_noHead {t : Text} (h : NoHead t) : behindHead? tag t = none := by
  rw [behindHead?, splitFirst?_eq_none (clear_headTag?.mpr h) rfl]
  rfl

theorem PutIn.behindHead?_eq {t t' : Text} (h : PutIn tag t t') : behindHead? tag t = some t' := by
  obtain @⟨before, head, hbefore, hhead, after⟩ := h
  have hlength : head.length = 6 := by rw [← List.length_map (f := fold), hhead]; rfl
  have hhere : headTag? (head ++ after) = some (head, after) := by
    rw [headTag?, (drops_dropFold? _ _ _).mpr ⟨head, hhead, rfl⟩, Option.map_some, List.take_left' hlength]
  rw [behindHead?, splitFirst?_of_clear (clear_headTag?.mpr (hbefore.clear (by decide) hhead after)) hhere]
  rfl

/-- More may follow. -/
theorem PutIn.append {t t' : Text} (h : PutIn tag t t') (more : Text) : PutIn tag (t ++ more) (t' ++ more) := by
  obtain ⟨hbefore, hhead, after⟩ := h
  simp only [List.append_assoc]
  exact .behind hbefore hhead (after ++ more)

/-- A text without a `<head>` may stand in front if none starts there. -/
theorem PutIn.append_left {p t t' : Text} (h : PutIn tag t t') (hp : Clear (dropFold? "<head>".toList) p t) :
    PutIn tag (p ++ t) (p ++ t') := by
  obtain @⟨before, head, hbefore, hhead, after⟩ := h
  have hclear : Clear (dropFold? "<head>".toList) (p ++ before) (head ++ after) :=
    clear_append.mpr ⟨hp, hbefore.clear (by decide) hhead after⟩
  rw [← List.append_assoc, ← List.append_assoc p]
  exact .behind ((clear_append_spelling (by decide) hhead after).mp hclear) hhead after

theorem PutIn.not_mem {t t' : Text} (h : PutIn tag t t') (htag : '\n' ∉ tag) (ht : '\n' ∉ t) : '\n' ∉ t' := by
  obtain ⟨-, -, after⟩ := h
  simp only [List.mem_append, not_or] at ht ⊢
  exact ⟨ht.1, ht.2.1, htag, ht.2.2⟩

end Behind

/-! ## Lines -/

/-- The lines `ls'` are the lines `ls` with the tag put in behind the first `<head>`. -/
inductive PutInLine (tag : Text) : List Text → List Text → Prop
  | here {line line' : Text} (h : PutIn tag line line') (ls : List Text) : PutInLine tag (line :: ls) (line' :: ls)
  | there {line : Text} {ls ls' : List Text} (hline : NoHead line) (h : PutInLine tag ls ls') :
      PutInLine tag (line :: ls) (line :: ls')

theorem noHead_or_line (tag : Text) (ls : List Text) : (∀ l ∈ ls, NoHead l) ∨ ∃ ls', PutInLine tag ls ls' := by
  induction ls with
  | nil => exact .inl fun l hl => absurd hl List.not_mem_nil
  | cons line ls ih =>
    obtain hno | ⟨line', h⟩ := noHead_or tag line
    · obtain hall | ⟨ls', h⟩ := ih
      · exact .inl (List.forall_mem_cons.mpr ⟨hno, hall⟩)
      · exact .inr ⟨_, .there hno h⟩
    · exact .inr ⟨_, .here h ls⟩

/-- No `<head>` goes on from one line to the next. -/
theorem NoHead.clear_nextLines {line : Text} (h : NoHead line) (ls : List Text) :
    Clear (dropFold? "<head>".toList) line (nextLines ls) := by
  cases ls with
  | nil => exact h
  | cons next ls => exact h.clear (q := "\n".toList) (w := ['\n']) (by decide) (by decide) _

theorem noHead_nextLines {first : Text} {ls : List Text} (h : ∀ l ∈ first :: ls, NoHead l) :
    NoHead (first ++ nextLines ls) := by
  induction ls generalizing first with
  | nil => rw [nextLines, List.flatMap_nil, List.append_nil]; exact h first List.mem_cons_self
  | cons line ls ih =>
    obtain ⟨hfirst, hls⟩ := List.forall_mem_cons.mp h
    refine clear_append.mpr ⟨?_, rfl, ih hls⟩
    rw [List.append_nil]
    exact hfirst.clear_nextLines _

/-- The lines may stand below one another in a text. -/
theorem PutInLine.putIn {tag first first' : Text} {ls ls' : List Text}
    (h : PutInLine tag (first :: ls) (first' :: ls')) : PutIn tag (first ++ nextLines ls) (first' ++ nextLines ls') := by
  induction ls generalizing first first' ls' with
  | nil =>
    cases h with
    | here h => exact h.append _
    | there hline h => cases h
  | cons line ls ih =>
    cases h with
    | here h => exact h.append _
    | there hline h =>
      have hclear := hline.clear_nextLines (line :: ls)
      cases ls' with
      | nil => cases h
      | cons line' ls' =>
        have hnewline : Clear (dropFold? "<head>".toList) ['\n'] (line ++ nextLines ls) := ⟨rfl, trivial⟩
        exact ((ih h).append_left hnewline).append_left hclear

theorem PutInLine.not_mem {tag : Text} {ls ls' : List Text} (h : PutInLine tag ls ls') (htag : '\n' ∉ tag)
    (hls : ∀ l ∈ ls, '\n' ∉ l) : ∀ l ∈ ls', '\n' ∉ l := by
  induction h with
  | here h ls =>
    obtain ⟨hline, hls⟩ := List.forall_mem_cons.mp hls
    exact List.forall_mem_cons.mpr ⟨h.not_mem htag hline, hls⟩
  | there hline h ih =>
    obtain ⟨hline, hls⟩ := List.forall_mem_cons.mp hls
    exact List.forall_mem_cons.mpr ⟨hline, ih hls⟩

/-! ## Cells of code with a `<head>` -/

/-- A line does not end inside a tag that ends with a quoted value. -/
theorem dropSuffixFold?_tag {tag : Text} (htag : "\">".toList <:+ tag) (after : Text) :
    dropSuffixFold? "</tt>".toList (tag ++ after) =
      (dropSuffixFold? "</tt>".toList after).map (tag ++ ·) := by
  obtain ⟨front, rfl⟩ := htag
  have hquote : "\">".toList ∈ spellings "\">".toList := by decide
  simpa using dropSuffixFold?_append_spelling (p := "</tt>".toList) (by decide) hquote front after

section Cell

variable {tag line line' next next' : Text}

/-- Code starts in front of a `<head>` on its line and ends behind it, so the tag is put in there. -/
theorem PutIn.code? (h : PutIn tag line line') (htag : "\">".toList <:+ tag) :
    (code? line = none ∧ code? line' = none) ∨
      ∃ code code', code? line = some code ∧ code? line' = some code' ∧ PutIn tag code code' := by
  obtain @⟨before, head, hbefore, hhead, after⟩ := h
  have hcode : ∀ more, Stl.code? (before ++ (head ++ more)) =
      (dropFold? "<tt>".toList before).bind fun before =>
        (dropSuffixFold? "</tt>".toList more).map fun more => before ++ (head ++ more) := by
    intro more
    rw [Stl.code?, dropFold?_append_spelling (by decide) hhead]
    cases dropFold? "<tt>".toList before with
    | none => rfl
    | some before => exact dropSuffixFold?_append_spelling (by decide) hhead before more
  rw [hcode, hcode, dropSuffixFold?_tag htag]
  cases hopening : dropFold? "<tt>".toList before with
  | none => exact .inl ⟨rfl, rfl⟩
  | some front =>
    cases dropSuffixFold? "</tt>".toList after with
    | none => exact .inl ⟨rfl, rfl⟩
    | some back =>
      obtain ⟨opening, rfl, -⟩ := dropFold?_eq_some.mp hopening
      exact .inr ⟨_, _, rfl, rfl, .behind (clear_append.mp hbefore).2 hhead back⟩

/-- The end of a cell stands in front of a `<head>` on its line. -/
theorem PutIn.cellEnd? (h : PutIn tag next next') :
    (dropFold? "</td>".toList next = none ∧ dropFold? "</td>".toList next' = none) ∨
      ∃ after after', dropFold? "</td>".toList next = some after ∧ dropFold? "</td>".toList next' = some after' ∧
        PutIn tag after after' := by
  obtain @⟨before, head, hbefore, hhead, after⟩ := h
  rw [dropFold?_append_spelling (by decide) hhead, dropFold?_append_spelling (by decide) hhead]
  cases hending : dropFold? "</td>".toList before with
  | none => exact .inl ⟨rfl, rfl⟩
  | some front =>
    obtain ⟨ending, rfl, -⟩ := dropFold?_eq_some.mp hending
    exact .inr ⟨_, _, rfl, rfl, .behind (clear_append.mp hbefore).2 hhead after⟩

/-- A cell stays one with the tag put in on the line of code, and nothing else becomes one. -/
theorem PutIn.cell?_line (h : PutIn tag line line') (htag : "\">".toList <:+ tag) (next : Text) :
    (cell? line next = none ∧ cell? line' next = none) ∨
      ∃ code code' after, cell? line next = some (code, after) ∧ cell? line' next = some (code', after) ∧
        PutIn tag code code' := by
  unfold cell?
  obtain ⟨hcode, hcode'⟩ | ⟨code, code', hcode, hcode', hin⟩ := h.code? htag
  · rw [hcode, hcode']
    exact .inl ⟨rfl, rfl⟩
  · rw [hcode, hcode']
    cases dropFold? "</td>".toList next with
    | none => exact .inl ⟨rfl, rfl⟩
    | some after => exact .inr ⟨code, code', after, rfl, rfl, hin⟩

/-- A cell stays one with the tag put in on the next line, and nothing else becomes one. -/
theorem PutIn.cell?_next (h : PutIn tag next next') (line : Text) :
    (cell? line next = none ∧ cell? line next' = none) ∨
      ∃ code after after', cell? line next = some (code, after) ∧ cell? line next' = some (code, after') ∧
        PutIn tag after after' := by
  unfold cell?
  cases Stl.code? line with
  | none => exact .inl ⟨rfl, rfl⟩
  | some code =>
    obtain ⟨hafter, hafter'⟩ | ⟨after, after', hafter, hafter', hin⟩ := h.cellEnd?
    · rw [hafter, hafter']
      exact .inl ⟨rfl, rfl⟩
    · rw [hafter, hafter']
      exact .inr ⟨code, after, after', rfl, rfl, hin⟩

end Cell

section NoHead

variable {line next code after : Text} (h : cell? line next = some (code, after))
include h

theorem noHead_codeBlock (hline : NoHead line) : NoHead (codeBlock code) := by
  obtain ⟨opening, closing, rfl, -, hclosing⟩ := code?_eq_some.mp (cell?_eq_some.mp h).1
  have hcode : NoHead code :=
    (clear_append_spelling (q := "</tt>".toList) (by decide) hclosing []).mp
      (clear_append.mp (clear_append.mp hline).2).1
  have hopen : "<pre>".toList ∈ spellings "<pre>".toList := by decide
  have hclose : "</pre></td>".toList ∈ spellings "</pre></td>".toList := by decide
  exact clear_append.mpr ⟨clear_head_literal (by decide) hopen _,
    clear_append.mpr ⟨hcode.clear (by decide) hclose [], clear_head_literal (by decide) hclose []⟩⟩

theorem noHead_after (hnext : NoHead next) : NoHead after := by
  obtain ⟨ending, rfl, -⟩ := dropFold?_eq_some.mp (cell?_eq_some.mp h).2
  exact (clear_append.mp hnext).2

end NoHead

theorem PutIn.codeBlock {tag code code' : Text} (h : PutIn tag code code') :
    PutIn tag (codeBlock code) (codeBlock code') := by
  have hopen : "<pre>".toList ∈ spellings "<pre>".toList := by decide
  exact (h.append _).append_left (clear_head_literal (by decide) hopen _)

/-! ## All the lines -/

theorem noHead_preformatLines {ls : List Text} (h : ∀ l ∈ ls, NoHead l) : ∀ l ∈ preformatLines ls, NoHead l := by
  fun_induction preformatLines ls with
  | case1 line next ls code after hcell ih =>
    obtain ⟨hline, hbelow⟩ := List.forall_mem_cons.mp h
    obtain ⟨hnext, hls⟩ := List.forall_mem_cons.mp hbelow
    exact List.forall_mem_cons.mpr ⟨noHead_codeBlock hcell hline,
      List.forall_mem_cons.mpr ⟨noHead_after hcell hnext, ih hls⟩⟩
  | case2 line next ls hcell ih =>
    obtain ⟨hline, hbelow⟩ := List.forall_mem_cons.mp h
    exact List.forall_mem_cons.mpr ⟨hline, ih hbelow⟩
  | case3 ls hshort => exact h

/-- The tag is put in before cells become blocks, or after that. -/
theorem PutInLine.preformatLines {tag : Text} (htag : "\">".toList <:+ tag) {ls ls' : List Text}
    (h : PutInLine tag ls ls') : PutInLine tag (preformatLines ls) (preformatLines ls') := by
  -- two lines are a cell with the tag on one of them if they are one without it, so the cells are those of `ls`
  fun_induction Stl.preformatLines ls generalizing ls' with
  | case1 line next ls code after hcell ih =>
    cases h with
    | here h =>
      -- the `<head>` is on the line of code
      obtain ⟨hnone, -⟩ | ⟨_, code', _, hcell₁, hcell₂, hin⟩ := h.cell?_line htag next
      · cases hcell.symm.trans hnone
      · cases hcell.symm.trans hcell₁
        rw [Stl.preformatLines, hcell₂]
        exact .here hin.codeBlock _
    | there hline h =>
      cases h with
      | here h =>
        -- the `<head>` is behind the end of the cell
        obtain ⟨hnone, -⟩ | ⟨_, _, after', hcell₁, hcell₂, hin⟩ := h.cell?_next line
        · cases hcell.symm.trans hnone
        · cases hcell.symm.trans hcell₁
          rw [Stl.preformatLines, hcell₂]
          exact .there (noHead_codeBlock hcell hline) (.here hin _)
      | there hnext h =>
        rw [Stl.preformatLines, hcell]
        exact .there (noHead_codeBlock hcell hline) (.there (noHead_after hcell hnext) (ih h))
  | case2 line next ls hcell ih =>
    cases h with
    | here h =>
      obtain ⟨-, hnone⟩ | ⟨_, _, _, hcell₁, -⟩ := h.cell?_line htag next
      · rw [Stl.preformatLines, hnone]
        exact .here h _
      · cases hcell.symm.trans hcell₁
    | there hline h =>
      have hrest := ih h
      cases h with
      | here h =>
        obtain ⟨-, hnone⟩ | ⟨_, _, _, hcell₁, -⟩ := h.cell?_next line
        · rw [Stl.preformatLines, hnone]
          exact .there hline hrest
        · cases hcell.symm.trans hcell₁
      | there hnext h =>
        rw [Stl.preformatLines, hcell]
        exact .there hline hrest
  | case3 ls hshort =>
    match ls, h with
    | [_], .here h _ => exact .here h []
    | [_], .there hline h => cases h
    | line :: next :: ls, _ => exact absurd rfl (hshort line next ls)

/-! ## Pages -/

theorem suffix_baseTag (base : Text) : "\">".toList <:+ baseTag base := ⟨"<base href=\"".toList ++ base, rfl⟩

theorem not_mem_baseTag {base : Text} (h : '\n' ∉ base) : '\n' ∉ baseTag base := by
  have hopen : '\n' ∉ "<base href=\"".toList := by decide
  have hclose : '\n' ∉ "\">".toList := by decide
  exact List.not_mem_append (List.not_mem_append hopen h) hclose

/-- Cells become blocks with the tag put in or without. -/
theorem behindHead?_preformatCells {tag : Text} (hline : '\n' ∉ tag) (htag : "\">".toList <:+ tag) (page : Text) :
    behindHead? tag (preformatCells page) = (behindHead? tag page).map preformatCells := by
  obtain ⟨first, ls, rfl, hlines⟩ := exists_nextLines page
  rw [preformatCells_first hlines]
  obtain hno | ⟨ls', h⟩ := noHead_or_line tag (first :: ls)
  · obtain ⟨hfirst, hls⟩ := List.forall_mem_cons.mp hno
    have hnew : ∀ l ∈ first :: preformatLines ls, NoHead l :=
      List.forall_mem_cons.mpr ⟨hfirst, noHead_preformatLines hls⟩
    rw [behindHead?_of_noHead (noHead_nextLines hno), behindHead?_of_noHead (noHead_nextLines hnew)]
    rfl
  · have hlines' := h.not_mem hline hlines
    obtain ⟨first', ls', rfl⟩ : ∃ first' ls'', ls' = first' :: ls'' := by cases h <;> exact ⟨_, _, rfl⟩
    have hnew : PutInLine tag (first :: preformatLines ls) (first' :: preformatLines ls') := by
      cases h with
      | here h => exact .here h _
      | there hfirst h => exact .there hfirst (h.preformatLines htag)
    rw [h.putIn.behindHead?_eq, hnew.putIn.behindHead?_eq, Option.map_some, preformatCells_first hlines']

/-- Base tags are put in before cells become blocks, or after that. -/
theorem insertBase_preformatCells {base : Text} (h : '\n' ∉ base) (page : Text) :
    insertBase base (preformatCells page) = preformatCells (insertBase base page) := by
  have hline := not_mem_baseTag h
  rw [insertBase_eq, insertBase_eq, behindHead?_preformatCells hline (suffix_baseTag base)]
  cases behindHead? (baseTag base) page with
  | some page' => rfl
  | none => exact (replaceAll_append _ (starts_teletypeCell?.clear hline page)).symm

/-! ## By place -/

/-- A `<head>` at a place, with what follows it. -/
theorem headTag?_drop {t head after : Text} {i : Nat} : headTag? (t.drop i) = some (head, after) ↔
    TagAt "<head>".toList t i ∧ head = (t.drop i).take 6 ∧ after = t.drop (i + 6) := by
  have hplain : IsPlain "<head>".toList := by decide
  simp only [headTag?, Option.map_eq_some_iff, dropFold?_drop hplain, Prod.mk.injEq]
  constructor
  · rintro ⟨_, ⟨hat, rfl⟩, rfl, rfl⟩
    exact ⟨hat, rfl, rfl⟩
  · rintro ⟨hat, rfl, rfl⟩
    exact ⟨_, ⟨hat, rfl⟩, rfl, rfl⟩

theorem headTag?_drop_eq_none {t : Text} {i : Nat} : headTag? (t.drop i) = none ↔ ¬TagAt "<head>".toList t i :=
  Option.map_eq_none_iff.trans (dropFold?_drop_eq_none (by decide))

/-- The first `<head>`, by its place. -/
theorem behindHead?_eq_some {tag t t' : Text} : behindHead? tag t = some t' ↔
    ∃ i, FirstAt "<head>".toList t i ∧ t' = t.take (i + 6) ++ (tag ++ t.drop (i + 6)) := by
  have hjoin : ∀ i, t.take i ++ ((t.drop i).take 6 ++ (tag ++ t.drop (i + 6))) =
      t.take (i + 6) ++ (tag ++ t.drop (i + 6)) := fun i => by rw [List.take_add, List.append_assoc]
  simp only [behindHead?, Option.map_eq_some_iff, Prod.exists, splitFirst?_eq_some_iff (m := headTag?) rfl,
    headTag?_drop, headTag?_drop_eq_none]
  constructor
  · rintro ⟨_, _, _, ⟨i, rfl, ⟨hhere, rfl, rfl⟩, hfirst⟩, rfl⟩
    exact ⟨i, ⟨hhere, hfirst⟩, hjoin i⟩
  · rintro ⟨i, hi, rfl⟩
    exact ⟨_, _, _, ⟨i, rfl, ⟨hi.here, rfl, rfl⟩, hi.first⟩, hjoin i⟩

theorem behindHead?_eq_none {tag t : Text} : behindHead? tag t = none ↔ ∀ i, ¬TagAt "<head>".toList t i := by
  rw [Option.eq_none_iff_forall_ne_some]
  constructor
  · intro hnone i hat
    obtain ⟨k, -, hk⟩ := hat.exists_firstAt
    exact hnone _ (behindHead?_eq_some.mpr ⟨k, hk, rfl⟩)
  · intro hno t' ht'
    obtain ⟨i, hi, -⟩ := behindHead?_eq_some.mp ht'
    exact hno i hi.here

/-- The text `t'` is `t` with the tag right behind the first `<head>`, or in front if there is none. -/
structure Inserted (tag t t' : Text) : Prop where
  behind : ∀ {i}, FirstAt "<head>".toList t i → t' = t.take (i + 6) ++ (tag ++ t.drop (i + 6))
  front : (∀ i, ¬TagAt "<head>".toList t i) → t' = tag ++ t

theorem inserted_insertBase (base page : Text) : Inserted (baseTag base) page (insertBase base page) where
  behind h := by rw [insertBase_eq, behindHead?_eq_some.mpr ⟨_, h, rfl⟩, Option.getD_some]
  front h := by rw [insertBase_eq, behindHead?_eq_none.mpr h, Option.getD_none]

/-- A page with base tag and blocks: the passes may change places, and what is left without the tag is the page with
blocks. -/
structure Displayed (base page shown : Text) : Prop where
  inserted : Inserted (baseTag base) page (insertBase base page)
  tagFirst : shown = preformatCells (insertBase base page)
  cellsFirst : shown = insertBase base (preformatCells page)
  behind : ∀ i, TagAt "<head>".toList page i → ∃ k, FirstAt "<head>".toList shown k ∧
    baseTag base <+: shown.drop (k + 6) ∧
    shown.take (k + 6) ++ shown.drop (k + 6 + (baseTag base).length) = preformatCells page
  front : (∀ i, ¬TagAt "<head>".toList page i) →
    baseTag base <+: shown ∧ shown.drop (baseTag base).length = preformatCells page

/-- **The two passes do not disturb each other.** -/
theorem displayPage_passes {base : Text} (h : '\n' ∉ base) (page : Text) :
    Displayed base page (displayPage page base) := by
  have hswap : displayPage page base = insertBase base (preformatCells page) :=
    (insertBase_preformatCells h page).symm
  have hhead := behindHead?_preformatCells (not_mem_baseTag h) (suffix_baseTag base) page
  have hinserted := inserted_insertBase base (preformatCells page)
  refine ⟨inserted_insertBase base page, rfl, hswap, fun i hi => ?_, fun hno => ?_⟩
  · obtain ⟨i, -, hfirst⟩ := hi.exists_firstAt
    rw [behindHead?_eq_some.mpr ⟨i, hfirst, rfl⟩] at hhead
    obtain ⟨k, hk, -⟩ := behindHead?_eq_some.mp hhead
    have hlength : k + 6 ≤ (preformatCells page).length := hk.here.le_length (by decide)
    have htake : ((preformatCells page).take (k + 6)).length = k + 6 := List.length_take_of_le hlength
    rw [hswap, hinserted.behind hk]
    refine ⟨k, hk.take (by decide) _, ?_, ?_⟩
    · rw [List.drop_left' htake]
      exact List.prefix_append ..
    · rw [List.take_left' htake, ← List.drop_drop, List.drop_left' htake, List.drop_left, List.take_append_drop]
  · rw [behindHead?_eq_none.mpr hno] at hhead
    rw [hswap, hinserted.front (behindHead?_eq_none.mp hhead)]
    exact ⟨List.prefix_append .., List.drop_left⟩

/-- A page with the first `<head>` in a cell of code. -/
def headInCell : Text := "x\n<tt><i<HEAD></tt></TT>\n</td><head>".toList

theorem displayPage_passes_cell :
    '\n' ∉ "u".toList ∧ TagAt "<head>".toList headInCell 8 ∧
    Displayed "u".toList headInCell "x\n<pre><i<HEAD><base href=\"u\"></tt></pre></td>\n<head>".toList := by
  have hbase : '\n' ∉ "u".toList := by decide
  have hshown : displayPage headInCell "u".toList =
      "x\n<pre><i<HEAD><base href=\"u\"></tt></pre></td>\n<head>".toList := by decide +kernel
  have hpasses := displayPage_passes hbase headInCell
  exact ⟨hbase, by decide, hshown ▸ hpasses⟩

end DocViewer.Stl
