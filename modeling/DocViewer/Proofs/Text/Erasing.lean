import DocViewer.Proofs.Text.Overstrike
import Mathlib.Data.List.Basic
import Mathlib.Logic.Relation
import Mathlib.Order.WellFounded

/-!
# Backspaces as erasures

A backspace erases the character in front of it, or only itself at the start of the text (`Erases`).

- No erasure changes what is left in the end (`Erases.stripOverstrike_eq`), and each makes the text shorter
  (`wellFounded_erases`).
- There is something to erase as long as there is a backspace (`isErased_iff`), so in whatever order erasing is done, it
  ends with the text without its overstrikes (`erased_iff`).
- The front of a text may be stripped on its own (`stripOverstrike_append`), and where characters were struck on top of
  one another the last ones are left (`stripOverstrike_cells`).

`erasing_normal_form` puts these together.
-/

namespace DocViewer

open Relation

/-- One erasure: of a character with the backspace behind it, or of a backspace at the start of the text. -/
inductive Erases : Text → Text → Prop
  | struck (before : Text) {c : Char} (hc : c ≠ backspace) (after : Text) :
      Erases (before ++ c :: backspace :: after) (before ++ after)
  | start (t : Text) : Erases (backspace :: t) t

/-- Nothing is left to erase. -/
def IsErased (t : Text) : Prop := ∀ u, ¬Erases t u

/-- A character that leaves a mark. -/
abbrev Mark := { c : Char // c ≠ backspace }

/-- What is struck at one place: some characters, and a last one on top of them. -/
structure Overstruck where
  under : List Mark
  top : Mark

/-- The characters with the backspaces that bring them to one place. -/
def Overstruck.written (cell : Overstruck) : Text := cell.under.flatMap (fun c => [c.val, backspace]) ++ [cell.top.val]

/-! ## Erasures one at a time -/

/-- An erasure changes nothing of what is left in the end. -/
theorem Erases.stripOverstrike_eq {t u : Text} (h : Erases t u) : stripOverstrike t = stripOverstrike u := by
  cases h with
  | struck before hc after =>
    rw [stripOverstrike, stripOverstrike, List.foldl_append, List.foldl_append, List.foldl_cons, List.foldl_cons,
      strike_of_ne hc, strike_backspace, List.tail_cons]
  | start => rw [stripOverstrike, List.foldl_cons, strike_backspace, List.tail_nil, ← stripOverstrike]

theorem Erases.length_lt {t u : Text} (h : Erases t u) : u.length < t.length := by
  cases h with
  | struck => simp only [List.length_append, List.length_cons]; omega
  | start => exact Nat.lt_succ_self _

/-- Erasing comes to an end. -/
theorem wellFounded_erases : WellFounded fun u t => Erases t u :=
  Subrelation.wf Erases.length_lt (measure List.length).wf

/-- The first backspace erases the character in front of it, or is at the start. -/
theorem exists_erases {t : Text} (h : backspace ∈ t) : ∃ u, Erases t u := by
  obtain ⟨before, after, rfl, hfirst⟩ := List.eq_append_cons_of_mem h
  obtain rfl | ⟨front, c, rfl⟩ := List.eq_nil_or_concat before
  · exact ⟨after, .start after⟩
  · have hc : c ≠ backspace := by
      rintro rfl
      exact hfirst (by simp)
    rw [List.concat_eq_append, List.append_assoc]
    exact ⟨front ++ after, .struck front hc after⟩

theorem Erases.backspace_mem {t u : Text} (h : Erases t u) : backspace ∈ t := by
  cases h with
  | struck => exact List.mem_append_right _ (List.mem_cons_of_mem _ List.mem_cons_self)
  | start => exact List.mem_cons_self

theorem isErased_iff {t : Text} : IsErased t ↔ backspace ∉ t := by
  constructor
  · rintro herased hmem
    obtain ⟨u, hu⟩ := exists_erases hmem
    exact herased u hu
  · exact fun hno u hu => hno hu.backspace_mem

/-! ## Erasing to the end -/

theorem stripOverstrike_of_reaches {t u : Text} (h : ReflTransGen Erases t u) :
    stripOverstrike t = stripOverstrike u := by
  induction h with
  | refl => rfl
  | tail _ hlast ih => exact ih.trans hlast.stripOverstrike_eq

theorem foldl_strike_of_not_mem {t : Text} (h : backspace ∉ t) (text : Text) :
    t.foldl strike text = t.reverse ++ text := by
  induction t generalizing text with
  | nil => rfl
  | cons c t ih =>
    obtain ⟨hc, ht⟩ := not_or.mp (List.mem_cons.not.mp h)
    rw [List.foldl_cons, strike_of_ne (Ne.symm hc), ih ht, List.reverse_cons, List.append_assoc, List.singleton_append]

/-- A text without backspaces has no overstrikes. -/
theorem stripOverstrike_eq_self {t : Text} (h : backspace ∉ t) : stripOverstrike t = t := by
  rw [stripOverstrike, foldl_strike_of_not_mem h, List.append_nil, List.reverse_reverse]

/-- Erasures lead to the text without its overstrikes. -/
theorem reaches_stripOverstrike (t : Text) : ReflTransGen Erases t (stripOverstrike t) := by
  induction t using wellFounded_erases.induction with
  | _ t ih =>
    by_cases hmem : backspace ∈ t
    · obtain ⟨u, hu⟩ := exists_erases hmem
      rw [hu.stripOverstrike_eq]
      exact .head hu (ih u hu)
    · rw [stripOverstrike_eq_self hmem]

/-- Where erasing ends is settled by the text. -/
theorem erased_iff {t u : Text} : ReflTransGen Erases t u ∧ IsErased u ↔ u = stripOverstrike t := by
  constructor
  · rintro ⟨hreach, herased⟩
    rw [stripOverstrike_of_reaches hreach, stripOverstrike_eq_self (isErased_iff.mp herased)]
  · rintro rfl
    exact ⟨reaches_stripOverstrike t, isErased_iff.mpr (backspace_not_mem_stripOverstrike t)⟩

theorem stripOverstrike_stripOverstrike (t : Text) : stripOverstrike (stripOverstrike t) = stripOverstrike t :=
  stripOverstrike_eq_self (backspace_not_mem_stripOverstrike t)

/-- The front of a text may be stripped on its own. -/
theorem stripOverstrike_append (t t' : Text) :
    stripOverstrike (t ++ t') = stripOverstrike (stripOverstrike t ++ t') := by
  have hfront : (stripOverstrike t).foldl strike [] = t.foldl strike [] := by
    rw [← List.reverse_inj]
    exact stripOverstrike_stripOverstrike t
  rw [stripOverstrike, stripOverstrike, List.foldl_append, List.foldl_append, hfront]

/-! ## Overstruck cells -/

/-- Only the character on top is added. -/
theorem foldl_strike_written (cell : Overstruck) (text : Text) :
    cell.written.foldl strike text = cell.top.val :: text := by
  obtain ⟨under, top⟩ := cell
  induction under with
  | nil => exact strike_of_ne top.property text
  | cons c under ih =>
    rw [Overstruck.written, List.flatMap_cons, List.append_assoc, List.cons_append, List.cons_append, List.nil_append,
      List.foldl_cons, List.foldl_cons, strike_of_ne c.property, strike_backspace, List.tail_cons]
    exact ih

theorem foldl_strike_cells (cells : List Overstruck) (text : Text) :
    (cells.flatMap Overstruck.written).foldl strike text = (cells.map fun cell => cell.top.val).reverse ++ text := by
  induction cells generalizing text with
  | nil => rfl
  | cons cell cells ih =>
    rw [List.flatMap_cons, List.foldl_append, foldl_strike_written, ih, List.map_cons, List.reverse_cons,
      List.append_assoc, List.singleton_append]

theorem stripOverstrike_cells (cells : List Overstruck) :
    stripOverstrike (cells.flatMap Overstruck.written) = cells.map fun cell => cell.top.val := by
  rw [stripOverstrike, foldl_strike_cells, List.append_nil, List.reverse_reverse]

/-- **The normal form of erasing.** Erasing comes to an end, and in whatever order it is done, it ends with the text
without its overstrikes, in which no backspace is left. So stripping again changes nothing, the front of a text may be
stripped on its own, and of characters struck on top of one another the last ones are left. -/
theorem erasing_normal_form (t : Text) :
    (WellFounded fun u t => Erases t u) ∧
    (∀ u, ReflTransGen Erases t u ∧ IsErased u ↔ u = stripOverstrike t) ∧
    backspace ∉ stripOverstrike t ∧
    stripOverstrike (stripOverstrike t) = stripOverstrike t ∧
    (∀ t', stripOverstrike (t ++ t') = stripOverstrike (stripOverstrike t ++ t')) ∧
    ∀ cells : List Overstruck,
      stripOverstrike (cells.flatMap Overstruck.written) = cells.map fun cell => cell.top.val :=
  ⟨wellFounded_erases, fun _ => erased_iff, backspace_not_mem_stripOverstrike t, stripOverstrike_stripOverstrike t,
    stripOverstrike_append t, stripOverstrike_cells⟩

end DocViewer
