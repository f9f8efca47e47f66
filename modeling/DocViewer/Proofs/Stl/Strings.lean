import DocViewer.Proofs.Stl.Index

/-!
# The pages of the strings

The strings are described on the page of `basic_string`, but a line may list `string` or `wstring` itself. A line that
lists `basic_string` settles all three (`Defines.of_basicString`), so what counts are the lines behind the last such
line. If one of them lists an alias, the alias has the page of the last one that does (`Index.lookup_listed`), else that
of `basic_string` (`Index.lookup_unlisted`).

`Index.strings_together` tells from this when the three have one page. `Index.not_strings_together`: there are indexes
in which they have not.
-/

namespace DocViewer.Stl

open Target

/-- The strings. -/
def strings : List Text := basicString :: basicStringAliases

/-- The terms share a page: with and without `std::` in front of them, all are found, with one path. -/
def Index.Shared (i : Index) (terms : List Text) : Prop :=
  ∃ path, ∀ term ∈ terms, i.lookup term = some path ∧ i.lookup (stdPrefix ++ term) = some path

/-! ## The last line of the strings -/

/-- Lines in front do not change which line is the last. -/
theorem DefinedLast.append_left {ls : List Text} {term href : Text} (h : DefinedLast ls term href)
    (front : List Text) : DefinedLast (front ++ ls) term href := by
  obtain ⟨earlier, line, later, rfl, hlast⟩ := h
  exact ⟨front ++ earlier, line, later, (List.append_assoc ..).symm, hlast⟩

/-- A line of `basic_string` gives its page to the aliases. -/
theorem Defines.of_basicString {line term href : Text} (h : Defines line basicString href)
    (halias : term ∈ basicStringAliases) : Defines line term href := by
  obtain ⟨e, hstands, hhref, hterm⟩ := h
  have hlabel : e.term = "basic_string".toList := by
    obtain hterm | ⟨hlabel, -⟩ := hterm
    · exact hterm.symm
    · exact hlabel
  exact ⟨e, hstands, hhref, .inr ⟨hlabel, by simpa [basicStringAliases] using halias⟩⟩

/-- An alias that no line lists behind the last line of `basic_string` has the page of that line. -/
theorem definedLast_of_basicString {earlier later : List Text} {line term href : Text}
    (hline : Defines line basicString href) (halias : term ∈ basicStringAliases)
    (hlater : term ∉ defined later) : DefinedLast (earlier ++ line :: later) term href :=
  ⟨earlier, line, later, rfl, hline.of_basicString halias, fun l hl href' hdefines => hlater ⟨l, hl, href', hdefines⟩⟩

/-! ## Looking the strings up -/

namespace Index

/-- A term is found with `std::` in front of it if it is found without. -/
theorem lookup_std {term : Text} (h : IsTerm term) (i : Index) : i.lookup (stdPrefix ++ term) = i.lookup term := by
  rw [lookup, lookup, withoutStd_append, withoutStd_of_isTerm h]

theorem isTerm_of_mem_strings {term : Text} (h : term ∈ strings) : IsTerm term := by
  have hall : ∀ term ∈ strings, term ≠ [] ∧ term.all isTermChar = true := by decide
  obtain ⟨hne, hchars⟩ := hall term h
  exact ⟨hne, List.all_eq_true.mp hchars⟩

/-- Strings share a page if they are found with one path, whatever stands in front of them. -/
theorem shared_strings {i : Index} : i.Shared strings ↔ ∃ path, ∀ term ∈ strings, i.lookup term = some path := by
  unfold Shared
  refine exists_congr fun path => forall₂_congr fun term hterm => ?_
  rw [lookup_std (isTerm_of_mem_strings hterm), and_self]

variable {root file href line : Text} {d : Disk} {bytes : Bytes} {earlier later : List Text}

/-- A term of the index on the disk has the page that the last line gives it. -/
theorem lookup_build {term : Text} (hroot : d.isDirectory root = true)
    (hread : d.read (Path.join root file) = .ok bytes) (hterm : IsTerm term)
    (hlast : DefinedLast (lines (decodeLossy bytes)) term href) :
    (build root file d).lookup term = some (Path.join root href) := by
  rw [build_of_read hroot hread, lookup, withoutStd_of_isTerm hterm]
  exact find?_parseIndex_of_last hlast root

section LastLine

variable (hroot : d.isDirectory root = true) (hread : d.read (Path.join root file) = .ok bytes)
  (hpage : lines (decodeLossy bytes) = earlier ++ line :: later)

include hroot hread hpage

theorem lookup_basicString (hline : Defines line basicString href)
    (hlater : ∀ l ∈ later, ∀ href', ¬Defines l basicString href') :
    (build root file d).lookup basicString = some (Path.join root href) :=
  lookup_build hroot hread (isTerm_of_mem_strings List.mem_cons_self) ⟨earlier, line, later, hpage, hline, hlater⟩

/-- An alias that later lines list has the page of the last of them. -/
theorem lookup_listed {term : Text} (hterm : term ∈ basicStringAliases) (hlast : DefinedLast later term href) :
    (build root file d).lookup term = some (Path.join root href) := by
  refine lookup_build hroot hread (isTerm_of_mem_strings (List.mem_cons_of_mem _ hterm)) ?_
  rw [hpage]
  exact (hlast.append_left [line]).append_left earlier

/-- An alias that no later line lists has the page of `basic_string`. -/
theorem lookup_unlisted {term : Text} (hterm : term ∈ basicStringAliases) (hline : Defines line basicString href)
    (hlater : term ∉ defined later) : (build root file d).lookup term = some (Path.join root href) := by
  refine lookup_build hroot hread (isTerm_of_mem_strings (List.mem_cons_of_mem _ hterm)) ?_
  rw [hpage]
  exact definedLast_of_basicString hline hterm hlater

end LastLine

/-- **The strings share a page** unless a later line takes one of them away. In an index page where a line lists
`basic_string`, let `later` be the lines behind the last such line. Then `basic_string` has the page of that line, and
an alias has it too, or it has the page of the last of the later lines that list the alias. So the three have one page
exactly if these later lines give the aliases the page of `basic_string`. -/
theorem strings_together (hroot : d.isDirectory root = true) (hread : d.read (Path.join root file) = .ok bytes)
    (hpage : lines (decodeLossy bytes) = earlier ++ line :: later) (hline : Defines line basicString href)
    (hlater : ∀ l ∈ later, ∀ href', ¬Defines l basicString href') :
    (build root file d).lookup basicString = some (Path.join root href) ∧
    (∀ term ∈ basicStringAliases,
      (term ∉ defined later → (build root file d).lookup term = some (Path.join root href)) ∧
      ∀ href', DefinedLast later term href' →
        (build root file d).lookup term = some (Path.join root href')) ∧
    ((build root file d).Shared strings ↔
      ∀ term ∈ basicStringAliases, ∀ href', DefinedLast later term href' →
        Path.join root href' = Path.join root href) := by
  have hbasic := lookup_basicString hroot hread hpage hline hlater
  have hlisted : ∀ term ∈ basicStringAliases, ∀ href', DefinedLast later term href' →
      (build root file d).lookup term = some (Path.join root href') := fun term hterm href' =>
    lookup_listed hroot hread hpage hterm
  have hunlisted : ∀ term ∈ basicStringAliases, term ∉ defined later →
      (build root file d).lookup term = some (Path.join root href) := fun term hterm =>
    lookup_unlisted hroot hread hpage hterm hline
  refine ⟨hbasic, fun term hterm => ⟨hunlisted term hterm, hlisted term hterm⟩, ?_⟩
  rw [shared_strings]
  constructor
  · rintro ⟨path, hshared⟩ term hterm href' hlast
    have hown := hlisted term hterm href' hlast
    rw [hshared term (List.mem_cons_of_mem _ hterm)] at hown
    rw [hshared basicString List.mem_cons_self] at hbasic
    exact Option.some.inj (hown.symm.trans hbasic)
  · intro hsame
    refine ⟨Path.join root href, List.forall_mem_cons.mpr ⟨hbasic, fun term hterm => ?_⟩⟩
    by_cases hdefined : term ∈ defined later
    · obtain ⟨href', hlast⟩ := exists_definedLast hdefined
      rw [hlisted term hterm href' hlast, hsame term hterm href' hlast]
    · exact hunlisted term hterm hdefined

/-- An index page with a line for each of the entries. -/
def listing (entries : List Entry) : Text :=
  ['\n'].intercalate (entries.map fun e => linkStart ++ (e.href ++ ("\">".toList ++ (e.term ++ cellEnd))))

/-- Documentation in `/d` with these entries. -/
def shelf (entries : List Entry) : Disk where
  entries := [(["index".toList, "d".toList], .file (encode (listing entries)) false), (["d".toList], .directory)]
  home := []

/-- Neither an earlier line of `string` nor a later one of `wstring` with the same page takes one away. -/
theorem strings_together_earlier :
    (build "/d".toList "index".toList (shelf [⟨"string".toList, "s.html".toList⟩,
      ⟨"basic_string".toList, "b.html".toList⟩, ⟨"wstring".toList, "b.html".toList⟩])).Shared strings := by
  have hread : (shelf [⟨"string".toList, "s.html".toList⟩, ⟨"basic_string".toList, "b.html".toList⟩,
      ⟨"wstring".toList, "b.html".toList⟩]).read (Path.join "/d".toList "index".toList) = .ok _ := rfl
  have hpage : lines (decodeLossy (encode (listing [⟨"string".toList, "s.html".toList⟩,
      ⟨"basic_string".toList, "b.html".toList⟩, ⟨"wstring".toList, "b.html".toList⟩]))) =
      [listing [⟨"string".toList, "s.html".toList⟩]] ++ listing [⟨"basic_string".toList, "b.html".toList⟩] ::
        [listing [⟨"wstring".toList, "b.html".toList⟩]] := by
    rw [decodeLossy_encode]
    decide
  have hline : Defines (listing [⟨"basic_string".toList, "b.html".toList⟩]) basicString "b.html".toList :=
    defines_iff.mpr ⟨⟨"basic_string".toList, "b.html".toList⟩, by decide, rfl, by decide⟩
  have hlater : ∀ line ∈ [listing [⟨"wstring".toList, "b.html".toList⟩]], ∀ term href, Defines line term href →
      term = "wstring".toList ∧ href = "b.html".toList := by
    intro line hline term href hdefines
    obtain ⟨e, he, rfl, hterm⟩ := defines_iff.mp hdefines
    have hwide : Entry.ofLine? (listing [⟨"wstring".toList, "b.html".toList⟩]) =
        some ⟨"wstring".toList, "b.html".toList⟩ := by decide
    rw [List.mem_singleton.mp hline, hwide] at he
    cases he
    exact ⟨List.mem_singleton.mp hterm, rfl⟩
  obtain ⟨-, -, hshared⟩ := strings_together rfl hread hpage hline
    fun line hline _ hdefines => absurd (hlater line hline _ _ hdefines).1 (by decide)
  refine hshared.mpr ?_
  rintro term - href' ⟨front, line, rest, hls, hdefines, -⟩
  have hmem : line ∈ front ++ line :: rest := List.mem_append_right _ List.mem_cons_self
  rw [(hlater line (hls ▸ hmem) _ _ hdefines).2]

/-- A later line of `string` takes it away, though `basic_string` is listed. -/
theorem not_strings_together : ¬∀ root file d bytes,
    d.isDirectory root = true → d.read (Path.join root file) = .ok bytes →
      basicString ∈ defined (lines (decodeLossy bytes)) → (build root file d).Shared strings := by
  intro h
  have hlisted : basicString ∈ defined (lines (decodeLossy (encode (listing
      [⟨"basic_string".toList, "b.html".toList⟩, ⟨"string".toList, "s.html".toList⟩])))) := by
    rw [decodeLossy_encode]
    exact ⟨listing [⟨"basic_string".toList, "b.html".toList⟩], by decide, "b.html".toList,
      defines_iff.mpr ⟨⟨"basic_string".toList, "b.html".toList⟩, by decide, rfl, by decide⟩⟩
  obtain ⟨path, hshared⟩ := h "/d".toList "index".toList
    (shelf [⟨"basic_string".toList, "b.html".toList⟩, ⟨"string".toList, "s.html".toList⟩]) _ rfl rfl hlisted
  have hbasic := (hshared "basic_string".toList (by decide)).1
  have hstring := (hshared "string".toList (by decide)).1
  rw [build_of_read rfl rfl, decodeLossy_encode] at hbasic hstring
  exact absurd (hbasic.trans hstring.symm) (by decide +kernel)

end Index

end DocViewer.Stl
