import DocViewer.Proofs.Stl.Terms
import DocViewer.Proofs.Text.Decoding
import Mathlib.Data.Char
import Mathlib.Data.List.Lex
import Mathlib.Data.Set.Card

/-!
# What the index lists

A line of the index page defines the term that its entry is labelled with, and a line that defines `basic_string`
defines `string` and `wstring` too (`Defines`). Of several lines that define a term the last one counts
(`DefinedLast`).

- `addLine_defined`, `addLine_undefined`: what one line does to the map.
- `foldl_addLine_last`, `foldl_addLine_undefined`: what a page does to it, line after line.
- `Index.last_wins`: the index is the map of the terms that its page defines, each with the page of the last line that
  defines it.
-/

namespace DocViewer.Stl

/-- The line defines the term, whose page is `href`: its entry is labelled with the term, or with `basic_string` if the
term is one of the other strings. -/
def Defines (line term href : Text) : Prop :=
  ∃ e : Entry, e.StandsOn line ∧ e.href = href ∧
    (term = e.term ∨ e.term = "basic_string".toList ∧ (term = "string".toList ∨ term = "wstring".toList))

/-- The last of the lines that define the term says that its page is `href`. -/
def DefinedLast (ls : List Text) (term href : Text) : Prop :=
  ∃ earlier line later, ls = earlier ++ line :: later ∧ Defines line term href ∧
    ∀ l ∈ later, ∀ href', ¬Defines l term href'

/-- The terms that the lines define. -/
def defined (ls : List Text) : Set Text := {term | ∃ line ∈ ls, ∃ href, Defines line term href}

/-- The map of the terms that an index page defines: each has the page of the last line that defines it, seen from the
root; they are listed once each, in the order of their bytes. -/
structure TermMap.LastWins (m : TermMap) (root page : Text) : Prop where
  found : ∀ term path, m.find? term = some path ↔
    ∃ href, DefinedLast (lines page) term href ∧ path = Path.join root href
  absent : ∀ term, m.find? term = none ↔ term ∉ defined (lines page)
  ascending : ((m.map (·.1)).map encode).Pairwise (· < ·)
  distinct : (m.map (·.1)).Nodup
  count : m.length = (defined (lines page)).ncard

namespace TermMap

/-! ## Adding terms -/

theorem find?_cons (term path t : Text) (m : TermMap) :
    find? ((term, path) :: m) t = if t = term then some path else m.find? t := by
  unfold find?
  rw [List.lookup_cons]
  by_cases h : t = term
  · simp [h]
  · rw [beq_false_of_ne h, if_neg h]

/-- Adding a term changes what is found for it, and for no other. -/
theorem find?_insert (m : TermMap) (term path t : Text) :
    (m.insert term path).find? t = if t = term then some path else m.find? t := by
  induction m with
  | nil => exact find?_cons term path t []
  | cons entry m ih =>
    obtain ⟨t', path'⟩ := entry
    simp only [insert]
    split
    · exact find?_cons term path t _
    split
    · rename_i heq
      subst heq
      rw [find?_cons, find?_cons]
      split <;> rfl
    · rename_i hne
      rw [find?_cons, find?_cons, ih]
      by_cases h : t = t'
      · subst h
        rw [if_pos rfl, if_pos rfl, if_neg (Ne.symm hne)]
      · rw [if_neg h, if_neg h]

/-- Adding several terms with one path. -/
theorem find?_insertAll (terms : List Text) (m : TermMap) (path t : Text) :
    (terms.foldl (fun m term => m.insert term path) m).find? t = if t ∈ terms then some path else m.find? t := by
  induction terms generalizing m with
  | nil => simp
  | cons term terms ih =>
    rw [List.foldl_cons, ih, find?_insert]
    by_cases hterm : t = term <;> by_cases hterms : t ∈ terms <;> simp [hterm, hterms]

/-! ## The order of the terms -/

/-- The terms stand in ascending order. -/
def Ascending (m : TermMap) : Prop := (m.map (·.1)).Pairwise (· < ·)

theorem Ascending.insert {m : TermMap} (h : m.Ascending) (term path : Text) : (m.insert term path).Ascending := by
  unfold Ascending at h ⊢
  induction m with
  | nil => exact List.pairwise_singleton _ _
  | cons entry m ih =>
    obtain ⟨t, path'⟩ := entry
    obtain ⟨hlow, hrest⟩ := List.pairwise_cons.mp h
    simp only [TermMap.insert]
    split
    · rename_i hlt
      refine List.pairwise_cons.mpr ⟨fun u hu => ?_, h⟩
      obtain rfl | hu := List.mem_cons.mp hu
      · exact hlt
      · exact hlt.trans (hlow u hu)
    · rename_i hnot
      split
      · rename_i heq
        subst heq
        exact h
      · rename_i hne
        refine List.pairwise_cons.mpr ⟨fun u hu => ?_, ih hrest⟩
        obtain rfl | hu := mem_insert hu
        · exact lt_of_le_of_ne (not_lt.mp hnot) (Ne.symm hne)
        · exact hlow u hu

theorem Ascending.nodup {m : TermMap} (h : m.Ascending) : (m.map (·.1)).Nodup := h.imp ne_of_lt

/-- Labels in ascending order are in the order of their bytes. -/
theorem Ascending.encode {m : TermMap} (h : m.Ascending) (hlabels : m.Labelled) :
    ((m.map (·.1)).map encode).Pairwise (· < ·) := by
  have hascii : ∀ term ∈ m.map (·.1), ∀ c ∈ term, c.toNat < 0x80 := by
    intro term hterm c hc
    have := (Target.toNat_of_isTermChar (isTermChar_of_isLabelChar ((hlabels term hterm).chars c hc))).2
    have : 'z'.toNat = 122 := rfl
    omega
  rw [List.pairwise_map]
  exact h.imp_of_mem fun ht hu hlt => encode_lt_encode (hascii _ ht) (hascii _ hu) hlt

end TermMap

theorem ascending_parseIndex (root page : Text) : (parseIndex root page).Ascending :=
  parseIndex_invariant (P := TermMap.Ascending) List.Pairwise.nil (fun h _ => h.insert _) root page

/-! ## One line -/

theorem Entry.mem_terms {e : Entry} {term : Text} : term ∈ e.terms ↔
    term = e.term ∨ e.term = "basic_string".toList ∧ (term = "string".toList ∨ term = "wstring".toList) := by
  unfold Entry.terms
  split
  · rename_i h
    have halias : term ∈ basicStringAliases ↔ term = "string".toList ∨ term = "wstring".toList := by
      simp [basicStringAliases]
    rw [List.mem_append, List.mem_singleton, halias]
    have hlabel : e.term = "basic_string".toList := h
    tauto
  · rename_i h
    have hlabel : e.term ≠ "basic_string".toList := h
    rw [List.mem_singleton]
    tauto

/-- A line defines the terms of its entry. -/
theorem defines_iff {line term href : Text} :
    Defines line term href ↔ ∃ e, Entry.ofLine? line = some e ∧ e.href = href ∧ term ∈ e.terms := by
  simp only [Defines, Entry.ofLine?_eq_some, Entry.mem_terms]

/-- Adds what a line defines. -/
def addLine (root : Text) (m : TermMap) (line : Text) : TermMap :=
  match Entry.ofLine? line with
  | some e => addEntry root m e
  | none => m

theorem parseIndex_eq (root page : Text) : parseIndex root page = (lines page).foldl (addLine root) [] := by
  unfold parseIndex
  rw [List.foldl_filterMap]
  congr 1
  funext m line
  unfold addLine
  cases Entry.ofLine? line <;> rfl

/-- A term has the page that the line gives it. -/
theorem addLine_defined {line term href : Text} (h : Defines line term href) (root : Text) (m : TermMap) :
    (addLine root m line).find? term = some (Path.join root href) := by
  obtain ⟨e, he, rfl, hterm⟩ := defines_iff.mp h
  rw [addLine, he]
  simp only
  rw [addEntry, TermMap.find?_insertAll, if_pos hterm]

/-- What the line does not define stays as it is. -/
theorem addLine_undefined {line term : Text} (h : ∀ href, ¬Defines line term href) (root : Text) (m : TermMap) :
    (addLine root m line).find? term = m.find? term := by
  unfold addLine
  split
  · rename_i e he
    have hterm : term ∉ e.terms := fun hterm => h e.href (defines_iff.mpr ⟨e, he, rfl, hterm⟩)
    rw [addEntry, TermMap.find?_insertAll, if_neg hterm]
  · rfl

/-! ## Line after line -/

/-- What no line defines stays as it is. -/
theorem foldl_addLine_undefined {ls : List Text} {term : Text} (h : ∀ line ∈ ls, ∀ href, ¬Defines line term href)
    (root : Text) (m : TermMap) : (ls.foldl (addLine root) m).find? term = m.find? term := by
  induction ls generalizing m with
  | nil => rfl
  | cons line ls ih =>
    rw [List.forall_mem_cons] at h
    rw [List.foldl_cons, ih h.2, addLine_undefined h.1]

/-- A term has the page that the last line gives it. -/
theorem foldl_addLine_last {ls : List Text} {term href : Text} (h : DefinedLast ls term href) (root : Text)
    (m : TermMap) : (ls.foldl (addLine root) m).find? term = some (Path.join root href) := by
  obtain ⟨earlier, line, later, rfl, hline, hlater⟩ := h
  rw [List.foldl_append, List.foldl_cons, foldl_addLine_undefined hlater, addLine_defined hline]

/-- Of the lines that define a term, one is the last. -/
theorem exists_definedLast {ls : List Text} {term : Text} (h : term ∈ defined ls) :
    ∃ href, DefinedLast ls term href := by
  induction ls with
  | nil =>
    obtain ⟨line, hline, -⟩ := h
    cases hline
  | cons line ls ih =>
    by_cases htail : term ∈ defined ls
    · obtain ⟨href, earlier, l, later, hls, hlast⟩ := ih htail
      exact ⟨href, line :: earlier, l, later, by rw [hls]; rfl, hlast⟩
    · obtain ⟨l, hl, href, hdefines⟩ := h
      obtain rfl | hl := List.mem_cons.mp hl
      · refine ⟨href, [], l, ls, rfl, hdefines, fun l' hl' href' hdefines' => ?_⟩
        exact htail ⟨l', hl', href', hdefines'⟩
      · exact absurd ⟨l, hl, href, hdefines⟩ htail

/-! ## The map of a page -/

theorem find?_parseIndex_of_last {page term href : Text} (h : DefinedLast (lines page) term href) (root : Text) :
    (parseIndex root page).find? term = some (Path.join root href) := by
  rw [parseIndex_eq, foldl_addLine_last h]

theorem find?_parseIndex_eq_none {root page term : Text} :
    (parseIndex root page).find? term = none ↔ term ∉ defined (lines page) := by
  constructor
  · intro hnone hdefined
    obtain ⟨href, hlast⟩ := exists_definedLast hdefined
    rw [find?_parseIndex_of_last hlast] at hnone
    cases hnone
  · intro hdefined
    rw [parseIndex_eq]
    exact foldl_addLine_undefined (fun line hline href h => hdefined ⟨line, hline, href, h⟩) root []

theorem find?_parseIndex_eq_some {root page term path : Text} : (parseIndex root page).find? term = some path ↔
    ∃ href, DefinedLast (lines page) term href ∧ path = Path.join root href := by
  constructor
  · intro hsome
    have hdefined : term ∈ defined (lines page) := by
      by_contra hnot
      rw [find?_parseIndex_eq_none.mpr hnot] at hsome
      cases hsome
    obtain ⟨href, hlast⟩ := exists_definedLast hdefined
    rw [find?_parseIndex_of_last hlast] at hsome
    exact ⟨href, hlast, (Option.some.inj hsome).symm⟩
  · rintro ⟨href, hlast, rfl⟩
    exact find?_parseIndex_of_last hlast root

/-- The terms of the map are those that the page defines. -/
theorem mem_names_parseIndex {root page term : Text} :
    term ∈ (parseIndex root page).map (·.1) ↔ term ∈ defined (lines page) := by
  rw [← TermMap.find?_isSome, ← not_iff_not, Option.not_isSome_iff_eq_none, find?_parseIndex_eq_none]

theorem length_parseIndex (root page : Text) : (parseIndex root page).length = (defined (lines page)).ncard := by
  have hset : defined (lines page) = ((parseIndex root page).map (·.1)).toFinset := by
    ext term
    rw [List.coe_toFinset, Set.mem_ofPred_eq, mem_names_parseIndex]
  rw [hset, Set.ncard_coe_finset, List.toFinset_card_of_nodup (ascending_parseIndex root page).nodup, List.length_map]

theorem lastWins_parseIndex (root page : Text) : (parseIndex root page).LastWins root page where
  found _ _ := find?_parseIndex_eq_some
  absent _ := find?_parseIndex_eq_none
  ascending := (ascending_parseIndex root page).encode (labelled_parseIndex root page)
  distinct := (ascending_parseIndex root page).nodup
  count := length_parseIndex root page

namespace Index

/-! ## The index on the disk -/

section Build

variable {root file : Text} {d : Disk}

theorem build_of_read {bytes : Bytes} (hroot : d.isDirectory root = true)
    (hread : d.read (Path.join root file) = .ok bytes) : build root file d =
      ⟨root, parseIndex root (decodeLossy bytes), .loaded (parseIndex root (decodeLossy bytes)).length⟩ := by
  rw [build, if_pos hroot]
  simp only [hread]

theorem build_of_fault {fault : Fault} (hroot : d.isDirectory root = true)
    (hread : d.read (Path.join root file) = .error fault) :
    build root file d = ⟨root, [], .unreadable (Path.join root file) fault⟩ := by
  rw [build, if_pos hroot]
  simp only [hread]

theorem build_of_no_root (hroot : d.isDirectory root = false) : build root file d = ⟨root, [], .missing root⟩ := by
  rw [build, hroot]
  rfl

end Build

/-- **The index.** The lines with links are those that define terms. Whatever the text of the index page, the last line
that defines a term wins, and terms that no line defines are absent. An index that was loaded is the map of its page and
counts its terms; one that is missing or cannot be read is empty. -/
theorem last_wins :
    (∀ line, (∃ before name term, Link line before name term) ↔ ∃ term href, Defines line term href) ∧
    (∀ root page, (parseIndex root page).LastWins root page) ∧
    ∀ root file d,
      match (build root file d).status with
      | .loaded n => ∃ bytes, d.isDirectory root = true ∧ d.read (Path.join root file) = .ok bytes ∧
          (build root file d).terms.LastWins root (decodeLossy bytes) ∧ n = (build root file d).names.length ∧
          n = (defined (lines (decodeLossy bytes))).ncard
      | .unreadable path fault => d.isDirectory root = true ∧ path = Path.join root file ∧
          d.read path = .error fault ∧ (build root file d).terms = []
      | .missing root' => root' = root ∧ d.isDirectory root = false ∧ (build root file d).terms = [] := by
  refine ⟨?_, lastWins_parseIndex, ?_⟩
  · intro line
    constructor
    · rintro ⟨before, name, term, hlink⟩
      obtain ⟨e, he⟩ := Entry.ofLine?_complete hlink
      exact ⟨e.term, e.href, e, Entry.ofLine?_sound he, rfl, .inl rfl⟩
    · rintro ⟨term, href, e, ⟨before, name, hlink, -⟩, -⟩
      exact ⟨before, name, e.term, hlink⟩
  · intro root file d
    cases hroot : d.isDirectory root with
    | false =>
      rw [build_of_no_root hroot]
      exact ⟨rfl, rfl, rfl⟩
    | true =>
      cases hread : d.read (Path.join root file) with
      | ok bytes =>
        have hwins := lastWins_parseIndex root (decodeLossy bytes)
        rw [build_of_read hroot hread]
        exact ⟨bytes, rfl, rfl, hwins, (List.length_map _).symm, hwins.count⟩
      | error fault =>
        rw [build_of_fault hroot hread]
        exact ⟨rfl, rfl, hread, rfl⟩

end Index

/-- A later entry of `string` wins over that of `basic_string`, but not for `wstring`. -/
example : parseIndex "/d".toList
    "<A href=\"a.html\">basic_string&lt;T&gt;</A></TD>\n<A href=\"b.html\">string</A></TD>".toList =
      [("basic_string".toList, "/d/a.html".toList), ("string".toList, "/d/b.html".toList),
        ("wstring".toList, "/d/a.html".toList)] := by
  decide +kernel

end DocViewer.Stl
