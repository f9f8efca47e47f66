import DocViewer.Html.Title
import DocViewer.Output.Viewport
import DocViewer.Proofs.Text.Decoding
import DocViewer.Proofs.Text.Literals

/-!
# The title of a page that is cut off

- The first title element is settled by the page up to its end (`rawTitle?_eq_some`): what follows changes nothing.
- For a page that arrives as bytes, cut anywhere: a title that is found stays (`title?_decodeLossy_append`), and bytes
  in which no title element ends bring none (`title?_decodeLossy_of_not_ends`).
-/

namespace DocViewer.Html

/-! ## The first title element -/

/-- The first title element ends somewhere in the page, and what follows there makes no difference. -/
theorem rawTitle?_eq_some {page raw : Text} (h : rawTitle? page = some raw) :
    ∃ upTo close after, close.map fold = "</title>".toList ∧ page = upTo ++ (close ++ after) ∧
      ∀ after', rawTitle? (upTo ++ (close ++ after')) = some raw := by
  simp only [rawTitle?, Option.bind_eq_bind, Option.bind_eq_some_iff, Option.some.injEq, Option.pure_def] at h
  obtain ⟨⟨before, rest⟩, hopen, ⟨raw', after⟩, hclose, rfl⟩ := h
  obtain ⟨tag, htag, rfl, hstart⟩ := splitFirst?_literal hopen
  obtain ⟨close, hend, rfl, hstop⟩ := splitFirst?_literal hclose
  refine ⟨before ++ (tag ++ raw'), close, after, hend, by simp, fun after' => ?_⟩
  have hs := hstart (raw' ++ (close ++ after'))
  rw [rawTitle?, List.append_assoc, List.append_assoc, hs]
  show (splitFirst? (dropFold? "</title>".toList) (raw' ++ (close ++ after'))).bind _ = _
  rw [hstop after']
  rfl

/-- The tag that ends a title element is written in characters below U+0080. -/
theorem ascii_of_close {close : Text} (h : close.map fold = "</title>".toList) : ∀ c ∈ close, c.toNat < 0x80 := by
  intro c hc
  have hmem : fold c ∈ "</title>".toList := h ▸ List.mem_map_of_mem hc
  have hall : ∀ a ∈ "</title>".toList, a.toNat < 0x80 ∧ a ≠ 's' := by simp
  exact toNat_lt_of_fold rfl (hall _ hmem).1 (hall _ hmem).2

/-! ## Pages that arrive as bytes -/

/-- The first title element of decoded bytes ends somewhere in them, and the bytes that follow make no difference. -/
theorem rawTitle?_decodeLossy_eq_some {bytes : Bytes} {raw : Text} (h : rawTitle? (decodeLossy bytes) = some raw) :
    ∃ upTo close after, close.map fold = "</title>".toList ∧ bytes = upTo ++ (asciiBytes close ++ after) ∧
      ∀ after', rawTitle? (decodeLossy (upTo ++ (asciiBytes close ++ after'))) = some raw := by
  obtain ⟨upTo, close, after, hclose, hpage, hraw⟩ := rawTitle?_eq_some h
  have hascii := ascii_of_close hclose
  have hne : close ≠ [] := by rintro rfl; cases hclose
  obtain ⟨u, v, rfl, rfl, rfl⟩ := decodeLossy_eq_append hascii hne hpage
  refine ⟨u, close, v, hclose, rfl, fun after' => ?_⟩
  rw [decodeLossy_append_asciiBytes u after' hascii hne]
  exact hraw _

/-- A title element that has ended stays the first one. -/
theorem rawTitle?_decodeLossy_append {bytes : Bytes} {raw : Text} (h : rawTitle? (decodeLossy bytes) = some raw)
    (more : Bytes) : rawTitle? (decodeLossy (bytes ++ more)) = some raw := by
  obtain ⟨upTo, close, after, _, rfl, hraw⟩ := rawTitle?_decodeLossy_eq_some h
  have := hraw (after ++ more)
  simpa using this

/-- A title that was found stays. -/
theorem title?_decodeLossy_append {bytes : Bytes} (h : (title? (decodeLossy bytes)).isSome) (more : Bytes) :
    title? (decodeLossy (bytes ++ more)) = title? (decodeLossy bytes) := by
  cases hr : rawTitle? (decodeLossy bytes) with
  | none => simp [title?, hr] at h
  | some raw => rw [title?, title?, hr, rawTitle?_decodeLossy_append hr more]

/-- The search for the end of a title element finds one that ends before so many bytes are passed. -/
theorem endsTitle_of_close {close : Text} (hclose : close.map fold = "</title>".toList) (count : Nat)
    (after rest : Bytes)
    (h : after.length < count) : endsTitle count (after ++ ((asciiBytes close).reverse ++ rest)) = true := by
  induction after generalizing count with
  | nil =>
    obtain ⟨count, rfl⟩ := Nat.exists_eq_succ_of_ne_zero (Nat.ne_of_gt h)
    have hfold : close.reverse.map fold = titleEnd := by rw [List.map_reverse, hclose]; rfl
    have hlen : (asciiBytes close).reverse.length = titleEnd.length := by
      rw [← hfold, asciiBytes, List.length_map, List.length_reverse, List.length_reverse, List.length_map]
    have htag : (((asciiBytes close).reverse ++ rest).take titleEnd.length).map (fun b => Char.ofNat b.toNat) =
        close.reverse := by
      rw [List.take_left' hlen, List.map_reverse, map_ofNat_asciiBytes (ascii_of_close hclose)]
    have hfound : dropFold? titleEnd close.reverse = some [] := dropFold?_eq_some.mpr ⟨close.reverse, by simp, hfold⟩
    rw [List.nil_append]
    cases hl : (asciiBytes close).reverse ++ rest with
    | nil => rw [(List.append_eq_nil_iff.mp hl).1] at hlen; cases hlen
    | cons b before =>
      rw [hl] at htag
      simp only [endsTitle, htag, hfound, Option.isSome_some, Bool.true_or]
  | cons b after ih =>
    obtain ⟨count, rfl⟩ := Nat.exists_eq_succ_of_ne_zero (Nat.ne_of_gt (Nat.zero_lt_of_lt h))
    rw [List.cons_append, endsTitle, ih count (Nat.lt_of_succ_lt_succ h), Bool.or_true]

/-- Bytes in which no title element ends change nothing. -/
theorem rawTitle?_decodeLossy_of_not_ends {bytes piece : Bytes}
    (h : endsTitle piece.length (piece.reverse ++ bytes.reverse) = false) :
    rawTitle? (decodeLossy (bytes ++ piece)) = rawTitle? (decodeLossy bytes) := by
  cases hr : rawTitle? (decodeLossy bytes) with
  | some raw => exact rawTitle?_decodeLossy_append hr piece
  | none =>
    cases hr' : rawTitle? (decodeLossy (bytes ++ piece)) with
    | none => rfl
    | some raw =>
      obtain ⟨upTo, close, after, hclose, hbytes, hraw⟩ := rawTitle?_decodeLossy_eq_some hr'
      by_cases hlen : after.length < piece.length
      · -- the element ends within the piece, where the search would have met it
        have hends := endsTitle_of_close hclose piece.length after.reverse upTo.reverse (by simpa using hlen)
        have hrev : piece.reverse ++ bytes.reverse = after.reverse ++ ((asciiBytes close).reverse ++ upTo.reverse) := by
          rw [← List.reverse_append, hbytes]
          simp
        rw [hrev, hends] at h
        cases h
      · -- the element ends before the piece, so it was there already
        obtain ⟨mid, rfl⟩ : ∃ mid, after = mid ++ piece := by
          have hsuffix : piece <:+ after := List.suffix_of_suffix_length_le ⟨bytes, rfl⟩
            ⟨upTo ++ asciiBytes close, by rw [hbytes, List.append_assoc]⟩ (Nat.le_of_not_lt hlen)
          exact hsuffix.imp fun _ => Eq.symm
        rw [← List.append_assoc, ← List.append_assoc, List.append_assoc upTo] at hbytes
        rw [List.append_cancel_right hbytes, hraw mid] at hr
        cases hr

theorem title?_decodeLossy_of_not_ends {bytes piece : Bytes}
    (h : endsTitle piece.length (piece.reverse ++ bytes.reverse) = false) :
    title? (decodeLossy (bytes ++ piece)) = title? (decodeLossy bytes) := by
  rw [title?, title?, rawTitle?_decodeLossy_of_not_ends h]

end DocViewer.Html
