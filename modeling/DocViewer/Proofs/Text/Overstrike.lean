import DocViewer.Text.Overstrike

/-!
# What is left of overstruck text

No backspace is left (`backspace_not_mem_stripOverstrike`).
-/

namespace DocViewer

theorem strike_backspace (text : Text) : strike text backspace = text.tail := if_pos rfl

theorem strike_of_ne {c : Char} (h : c ≠ backspace) (text : Text) : strike text c = c :: text := if_neg h

/-- Striking brings no backspace into a text that has none. -/
theorem backspace_not_mem_strike {text : Text} (h : backspace ∉ text) (c : Char) : backspace ∉ strike text c := by
  unfold strike
  split
  · exact fun hmem => h (List.mem_of_mem_tail hmem)
  · rename_i hc
    rw [List.mem_cons, not_or]
    exact ⟨Ne.symm hc, h⟩

theorem backspace_not_mem_foldl_strike (t : Text) {text : Text} (h : backspace ∉ text) :
    backspace ∉ t.foldl strike text := by
  induction t generalizing text with
  | nil => exact h
  | cons c t ih => exact ih (backspace_not_mem_strike h c)

theorem backspace_not_mem_stripOverstrike (t : Text) : backspace ∉ stripOverstrike t := by
  rw [stripOverstrike, List.mem_reverse]
  exact backspace_not_mem_foldl_strike t List.not_mem_nil

end DocViewer
