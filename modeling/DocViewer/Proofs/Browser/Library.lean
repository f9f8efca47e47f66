import DocViewer.Proofs.Browser.Visiting
import DocViewer.Proofs.Output.Writing
import DocViewer.Proofs.Stl.Terms
import DocViewer.Proofs.Text.Lines

/-!
# The library in the browser

- A search for a term finds a page if the index lists the term, and finds out that there is none if not
  (`search_unlisted`, `search_listed`); how the term is written makes no difference (`search_termUrl`).
- Listing the terms writes each of them on a line of its own (`listTerms_written`).
-/

namespace DocViewer

open Writer World Target

variable {ω : Type}

/-- There was a page to show: it was shown, or its file could not be read, or it could not be written. -/
def Presented (result : Except Error Outcome) : Prop :=
  result = .ok .shown ∨ (∃ path fault, result = .error (.io path fault)) ∨ ∃ fault, result = .error (.stream fault)

namespace Session

/-! ## Searching for a term -/

/-- The journal makes no difference to the index. -/
theorem stlIndex_journal (s : Session ω) (journal : List Log.Notice) :
    { s with world := { s.world with journal } }.stlIndex.1 = s.stlIndex.1 := by
  unfold stlIndex
  cases s.browser.index with
  | some index => rfl
  | none => rfl

section Search

variable [Writer ω]

theorem search_termUrl {s : Session ω} {text term : Text} (h : IsTermUrl (trim text) term) :
    s.search text = s.visit (.stl term) := by rw [search, ofSearch_eq_stl.mpr h]

theorem present_presented (s : Session ω) (page : Text) : Presented (s.present (.ok page)).1 := by
  rw [present]
  split
  · exact .inl rfl
  · exact .inr (.inr ⟨_, rfl⟩)

theorem openStl_unlisted {s : Session ω} {term : Text} (h : s.stlIndex.1.lookup term = none) :
    (s.openStl term).1 = .ok (.notFound term) := by
  have hpage : s.stlIndex.1.page term s.stlIndex.2.world.disk = .ok none := by rw [Stl.Index.page, h]
  simp only [openStl, hpage]

theorem openStl_listed {s : Session ω} {term path : Text} (h : s.stlIndex.1.lookup term = some path) :
    Presented (s.openStl term).1 := by
  cases hread : s.stlIndex.2.world.disk.page path with
  | ok page =>
    have hpage : s.stlIndex.1.page term s.stlIndex.2.world.disk =
        .ok (some (Stl.displayPage page s.stlIndex.1.baseHref)) := by simp only [Stl.Index.page, h, hread]
    simp only [openStl, hpage]
    exact present_presented _ _
  | error e =>
    have hpage : s.stlIndex.1.page term s.stlIndex.2.world.disk = .error e := by simp only [Stl.Index.page, h, hread]
    obtain ⟨fault, rfl⟩ : ∃ fault, e = .io path fault := by
      unfold Disk.page at hread
      split at hread
      · cases hread
      · cases hread
        exact ⟨_, rfl⟩
    simp only [openStl, hpage]
    exact .inr (.inl ⟨path, fault, rfl⟩)

/-- A term that the index does not list has no page. -/
theorem search_unlisted {s : Session ω} {text term : Text} (h : IsTermUrl (trim text) term)
    (hterm : term ∉ s.stlIndex.1.names) : (s.search text).1 = .ok (.notFound term) := by
  have hlookup : s.stlIndex.1.lookup term = none :=
    Option.not_isSome_iff_eq_none.mp (mt (Stl.Index.lookup_isSome h.isTerm).mp hterm)
  rw [search_termUrl h]
  exact openStl_unlisted ((congrArg (Stl.Index.lookup · term) (stlIndex_journal s _)).trans hlookup)

/-- A term that the index lists has a page. -/
theorem search_listed {s : Session ω} {text term : Text} (h : IsTermUrl (trim text) term)
    (hterm : term ∈ s.stlIndex.1.names) : Presented (s.search text).1 := by
  obtain ⟨path, hlookup⟩ := Option.isSome_iff_exists.mp ((Stl.Index.lookup_isSome h.isTerm).mpr hterm)
  rw [search_termUrl h]
  exact openStl_listed ((congrArg (Stl.Index.lookup · term) (stlIndex_journal s _)).trans hlookup)

/-- A search for a term is not ignored, and finds out that there is no page if the index does not list the term. -/
theorem search_term {s : Session ω} {text term : Text} (h : IsTermUrl (trim text) term) :
    (s.search text).1 ≠ .ok .ignored ∧
      ((s.search text).1 = .ok (.notFound term) ↔ term ∉ s.stlIndex.1.names) := by
  by_cases hterm : term ∈ s.stlIndex.1.names
  · have hpresented := search_listed h hterm
    obtain hr | ⟨_, _, hr⟩ | ⟨_, hr⟩ := hpresented <;> rw [hr] <;> simp [hterm]
  · rw [search_unlisted h hterm]
    simp [hterm]

/-! ## Listing the terms -/

/-- Texts and newlines, as they are written, are together lines. -/
theorem encode_unlines (ts : List Text) :
    (ts.flatMap fun t => [encode t, encode ['\n']]).flatten = encode (unlines ts) := by
  induction ts with
  | nil => rfl
  | cons t ts ih =>
    have hcons : encode (unlines (t :: ts)) = encode t ++ encode ['\n'] ++ encode (unlines ts) := by
      simp only [encode, unlines, List.flatMap_cons, List.flatMap_append]
    rw [hcons, ← ih, List.flatMap_cons, List.flatten_append]
    simp

/-- Listing the terms writes them line by line, all of them if it succeeds. An index that was not loaded has none. -/
theorem listTerms_written (s : Session ω) :
    ∃ taken, taken <+: encode (unlines s.stlIndex.1.names) ∧
      held s.listTerms.2.viewport.sink = held s.viewport.sink ++ taken ∧
      (s.listTerms.1 = .ok true → taken = encode (unlines s.stlIndex.1.names)) := by
  obtain ⟨-, hview, -⟩ := stlIndex_frame s
  simp only [listTerms]
  cases s.stlIndex.1.status with
  | loaded terms =>
    simp only [hview, writeLines]
    obtain ⟨taken, hfront, hheld⟩ := writeEach_taken s.viewport.stream
      (s.stlIndex.1.names.flatMap fun t => [encode t, encode ['\n']])
    cases hw : writeEach s.viewport.stream (s.stlIndex.1.names.flatMap fun t => [encode t, encode ['\n']]) with
    | mk result page =>
      rw [hw] at hheld
      rw [encode_unlines] at hfront
      cases result with
      | ok _ =>
        have hall := writeEach_ok hw
        rw [encode_unlines] at hall
        exact ⟨_, List.prefix_refl _, hall, fun _ => rfl⟩
      | error fault => exact ⟨taken, hfront, hheld, fun h => by cases h⟩
  | missing | unreadable =>
    refine ⟨[], List.nil_prefix, ?_, fun h => by cases h⟩
    rw [List.append_nil]
    exact congrArg (held ·.sink) hview

end Search

end Session

end DocViewer
