import DocViewer.Link.StatusHint
import Mathlib.Algebra.Group.Nat.Defs
import Mathlib.Data.List.Basic

/-!
# One hover after another

The hovers of a reader are kept in a record (`StatusHint.record`): what each of them carries, with the number that it
gives.

- The status line tells what the last hover of the record says (`told_foldl`).
- The numbers go up by one from the number given last, as long as 32 bits have room for them (`toNat_numbers`): a hover
  that leaves a link gives no number and uses none up. So they ascend (`ascending_numbers`), and a hint that was cleared
  or replaced has a number other than that of the last hover (`number_ne_of_mem_dropLast`).
-/

namespace DocViewer.StatusHint

/-- Hovers one after another, each with the number that it gives. -/
def record (h : StatusHint) : List (Option Text) → List (Option Text × Option UInt32)
  | [] => []
  | url :: urls => (url, h.number url) :: (h.hover url).record urls

/-- The URL on display with its number. -/
def told (h : StatusHint) : Option Text × Option UInt32 := (h.shown, h.shownId)

/-! ## One hover -/

theorem told_hover (h : StatusHint) (url : Option Text) : (h.hover url).told = (url, h.number url) := by
  cases url <;> rfl

theorem isSome_number (h : StatusHint) (url : Option Text) : (h.number url).isSome = url.isSome := by
  cases url <;> rfl

/-- A new hint uses up one number. -/
theorem toNat_last_hover {h : StatusHint} (hroom : h.last.toNat + 1 < 2 ^ 32) (url : Text) :
    (h.hover (some url)).last.toNat = h.last.toNat + 1 := by
  show (h.last + 1).toNat = h.last.toNat + 1
  rw [UInt32.toNat_add, UInt32.toNat_one, Nat.mod_eq_of_lt hroom]

/-! ## The record -/

theorem map_fst_record (h : StatusHint) (urls : List (Option Text)) : (h.record urls).map Prod.fst = urls := by
  induction urls generalizing h with
  | nil => rfl
  | cons url urls ih => rw [record, List.map_cons, ih]

/-- A hover gives a number if and only if it carries a URL. -/
theorem isSome_of_mem_record {h : StatusHint} {urls : List (Option Text)} {p : Option Text × Option UInt32}
    (hp : p ∈ h.record urls) : p.2.isSome = p.1.isSome := by
  induction urls generalizing h with
  | nil => cases hp
  | cons url urls ih =>
    rcases List.mem_cons.mp hp with rfl | hp
    · exact h.isSome_number url
    · exact ih hp

/-- The status line tells what the last hover says. -/
theorem told_foldl (h : StatusHint) (urls : List (Option Text)) :
    (urls.foldl hover h).told = (h.record urls).getLast?.getD h.told := by
  induction urls generalizing h with
  | nil => rfl
  | cons url urls ih => rw [List.foldl_cons, ih, told_hover, record, List.getLast?_cons, Option.getD_some]

/-! ## The numbers -/

section Room

variable {h : StatusHint} {urls : List (Option Text)}

/-- The numbers go up by one. -/
theorem toNat_numbers (hroom : h.last.toNat + urls.countP Option.isSome < 2 ^ 32) :
    ((h.record urls).filterMap Prod.snd).map UInt32.toNat =
      List.range' (h.last.toNat + 1) (urls.countP Option.isSome) := by
  induction urls generalizing h with
  | nil => rfl
  | cons url urls ih =>
    cases url with
    | none => exact ih hroom
    | some url =>
      rw [List.countP_cons_of_pos rfl] at hroom ⊢
      have hlast : (h.last + 1).toNat = h.last.toNat + 1 := toNat_last_hover (by omega) url
      have hrest := ih (h := h.hover (some url)) (by simp only [hover, hlast]; omega)
      simp only [hover, hlast] at hrest
      simp only [record, number, hover, List.filterMap_cons, List.map_cons, hrest, hlast, List.range'_succ]

/-- The numbers ascend. -/
theorem ascending_numbers (hroom : h.last.toNat + urls.countP Option.isSome < 2 ^ 32) :
    ((h.record urls).filterMap Prod.snd).Pairwise (· < ·) := by
  have hrange : (List.range' (h.last.toNat + 1) (urls.countP Option.isSome)).Pairwise (· < ·) :=
    List.pairwise_lt_range'
  rw [← toNat_numbers hroom, List.pairwise_map] at hrange
  exact hrange

/-- A hint that was cleared or replaced has a number other than that of the last hover. -/
theorem number_ne_of_mem_dropLast (hroom : h.last.toNat + urls.countP Option.isSome < 2 ^ 32)
    {p : Option Text × Option UInt32} (hp : p ∈ (h.record urls).dropLast) (hnumber : p.2.isSome) :
    (h.record urls).getLast?.bind Prod.snd ≠ p.2 := by
  intro hsame
  obtain ⟨n, hn⟩ := Option.isSome_iff_exists.mp hnumber
  rw [hn] at hsame
  obtain ⟨q, hq, hqn⟩ := Option.bind_eq_some_iff.mp hsame
  have hascending := ascending_numbers hroom
  rw [← List.dropLast_append_getLast? q hq, List.filterMap_append, List.pairwise_append] at hascending
  have hbefore : n ∈ (h.record urls).dropLast.filterMap Prod.snd := List.mem_filterMap.mpr ⟨p, hp, hn⟩
  have hlast : n ∈ [q].filterMap Prod.snd := List.mem_filterMap.mpr ⟨q, List.mem_singleton_self q, hqn⟩
  exact absurd (hascending.2.2 n hbefore n hlast) (UInt32.lt_irrefl n)

end Room

end DocViewer.StatusHint
