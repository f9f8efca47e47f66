import DocViewer.Proofs.Stl.Entries
import DocViewer.Proofs.Text.Lines
import DocViewer.Proofs.Text.Spelling
import DocViewer.Stl.Index

/-!
# Writing the index and reading it back

An `IndexPage` is written line by line: a line is a `Row`, which links a term to its page, or has no cell that ends
with a link. Anything may stand in front of the link of a row, but nothing behind the name of its page starts or ends a
name.

- `Row.standsOn`: the entry of a row stands on its line, since no other link starts behind it and no other name there
  is longer.
- `Line.read`: a line is read as it was written, with the carriage return at its end or without.
- `parseIndex_written`: reading an index page undoes writing it.
-/

namespace DocViewer.Stl

/-! ## Index pages -/

/-- A row of the index: the link of the term to the page `name.html`, at the end of a cell. -/
structure Row where
  before : Text
  name : Text
  term : Text
  parameters : Option Text
  after : Text
  one_line : ∀ t ∈ before :: name :: after :: parameters.toList, '\n' ∉ t
  name_ne : name ≠ []
  no_quote : '"' ∉ name
  isLabel : IsLabel term
  no_name : ∀ t ∈ after :: parameters.toList, ¬"<A href=\"".toList <:+: t ∧ ¬".html\">".toList <:+: t

namespace Row

def href (r : Row) : Text := r.name ++ ".html".toList

/-- The parameters of a template, in brackets, if there are any. -/
def template (r : Row) : Text :=
  match r.parameters with
  | some parameters => "&lt;".toList ++ (parameters ++ "&gt;".toList)
  | none => []

/-- The row as it stands in the page. -/
def written (r : Row) : Text :=
  r.before ++ ("<A href=\"".toList ++ (r.href ++ ("\">".toList ++ (r.term ++ (r.template ++
    ("</A></TD>".toList ++ r.after))))))

end Row

/-- A line of the index: a row, or a line in which no cell ends with a link. -/
inductive Line
  | row (r : Row)
  | other (text : Text) (one_line : '\n' ∉ text) (no_cell : ¬"</A></TD>".toList <:+: text)

namespace Line

def written : Line → Text
  | row r => r.written
  | other text _ _ => text

def row? : Line → Option Row
  | row r => some r
  | other .. => none

end Line

/-- How a line ends: at a newline, or at a carriage return and a newline. -/
inductive LineEnd
  | newline
  | returnNewline

def LineEnd.written : LineEnd → Text
  | newline => "\n".toList
  | returnNewline => "\r\n".toList

/-- An index page: lines, each with its end, and a last line, which has none. -/
structure IndexPage where
  lines : List (Line × LineEnd)
  last : Line

namespace IndexPage

def written (p : IndexPage) : Text := (p.lines.flatMap fun l => l.1.written ++ l.2.written) ++ p.last.written

/-- The rows of the page in order. -/
def rows (p : IndexPage) : List Row := p.lines.filterMap (·.1.row?) ++ p.last.row?.toList

end IndexPage

/-- Adds the term of a row, with `string` and `wstring` if it is `basic_string`. -/
def addRow (root : Text) (m : TermMap) (r : Row) : TermMap :=
  let path := Path.join root r.href
  if r.term = "basic_string".toList then
    ((m.insert "string".toList path).insert "wstring".toList path).insert "basic_string".toList path
  else m.insert r.term path

/-! ## Rows -/

namespace Row

def entry (r : Row) : Entry := ⟨r.term, r.href⟩

/-- What stands behind the term. -/
def ending (r : Row) : Text := r.template ++ (cellEnd ++ r.after)

theorem written_eq (r : Row) :
    r.written = r.before ++ (linkStart ++ (r.name ++ (labelStart ++ (r.term ++ r.ending)))) := by
  simp only [written, href, ending, labelStart, List.append_assoc]
  rfl

theorem endsCell_ending (r : Row) : EndsCell r.ending := by
  unfold ending template
  split
  · rename_i parameters _
    have hends : EndsCell (parametersStart ++ (parameters ++ ("&gt;".toList ++ cellEnd ++ r.after))) :=
      .template parameters r.after
    simp only [List.append_assoc] at hends ⊢
    exact hends
  · exact .plain r.after

/-! ## No other name starts or ends behind the name of a row -/

section Mark

variable {mark : Text} (hmark : mark = linkStart ∨ mark = labelStart)
include hmark

theorem clear_label {term : Text} (h : IsLabel term) (t : Text) : Clear (dropPrefix? mark) term t := by
  obtain rfl | rfl := hmark
  · exact (starts_dropPrefix? (a := '<') rfl).clear (fun hc => absurd (h.chars _ hc) (by decide)) t
  · exact (starts_dropPrefix? (a := '.') rfl).clear (fun hc => absurd (h.chars _ hc) (by decide)) t

/-- Neither mark starts in a literal that is apart from both. -/
theorem clear_apart {q : Text} (h : ∀ s ∈ q.tails, s ≠ [] → Apart linkStart s ∧ Apart labelStart s) (t : Text) :
    Clear (dropPrefix? mark) q t := by
  obtain rfl | rfl := hmark
  · exact clear_literal (fun s hs hne => (h s hs hne).1) t
  · exact clear_literal (fun s hs hne => (h s hs hne).2) t

/-- Neither mark starts in a text without it that an `&` follows, or nothing. -/
theorem clear_nameless {q : Text} (h : ¬linkStart <:+: q ∧ ¬labelStart <:+: q) {t : Text}
    (ht : ∀ c ∈ t.head?, c = '&') : Clear (dropPrefix? mark) q t := by
  obtain rfl | rfl := hmark
  · exact clear_of_not_infix h.1 fun c hc => ht c hc ▸ by decide
  · exact clear_of_not_infix h.2 fun c hc => ht c hc ▸ by decide

theorem clear_template (r : Row) (t : Text) : Clear (dropPrefix? mark) r.template t := by
  unfold template
  split
  · rename_i parameters hparameters
    have hno : ¬linkStart <:+: parameters ∧ ¬labelStart <:+: parameters :=
      r.no_name _ (List.mem_cons_of_mem _ (by rw [hparameters]; exact List.mem_singleton_self _))
    refine clear_append.mpr ⟨clear_apart hmark (by decide) _, clear_append.mpr ⟨?_, clear_apart hmark (by decide) _⟩⟩
    refine clear_nameless hmark hno ?_
    rintro c ⟨⟩
    rfl
  · trivial

/-- Neither mark starts behind the name of the page. -/
theorem clear_behind (r : Row) : Clear (dropPrefix? mark) (r.term ++ r.ending) [] := by
  refine clear_append.mpr ⟨clear_label hmark r.isLabel _, clear_append.mpr ⟨clear_template hmark r _, ?_⟩⟩
  refine clear_append.mpr ⟨clear_apart hmark (by decide) _, clear_nameless hmark ?_ ?_⟩
  · exact r.no_name _ List.mem_cons_self
  · rintro c ⟨⟩

end Mark

/-- No link starts in the name of the page: it has no quote, and the `.` behind it is in no start of a link. -/
theorem clear_name (r : Row) (t : Text) : Clear (dropPrefix? linkStart) r.name (labelStart ++ t) := by
  have hno : ¬linkStart <:+: r.name := fun hin => r.no_quote (hin.subset (by decide))
  refine clear_of_not_infix hno ?_
  rintro c ⟨⟩
  decide

/-- A link on the line of a row starts no later than that of the row. -/
theorem starts_first {r : Row} {before name term : Text} (h : Link r.written before name term) :
    before <+: r.before := by
  obtain ⟨⟨found, -, hline⟩, -⟩ := h
  rw [r.written_eq] at hline
  have hclear : Clear (dropPrefix? linkStart) ("A href=\"".toList ++ (r.name ++ (labelStart ++ (r.term ++ r.ending))))
      [] := by
    refine clear_append.mpr ⟨clear_literal (by decide) _, clear_append.mpr ⟨?_, clear_append.mpr ⟨?_, ?_⟩⟩⟩
    · rw [List.append_nil]
      exact r.clear_name _
    · exact clear_literal (by decide) _
    · exact r.clear_behind (.inl rfl)
  exact prefix_of_clear (c := '<') (dropPrefix?_eq_some.mpr rfl) hclear rfl (dropPrefix?_eq_some.mpr rfl) hline.symm

/-- A link that starts where that of the row does has no longer name. -/
theorem name_longest {r : Row} {name term : Text} (h : Link r.written r.before name term) : name <+: r.name := by
  obtain ⟨⟨found, ⟨-, rest, -, rfl⟩, hline⟩, -⟩ := h
  rw [r.written_eq] at hline
  have hnames := List.append_cancel_left (List.append_cancel_left hline)
  have hclear : Clear (dropPrefix? labelStart) ("html\">".toList ++ (r.term ++ r.ending)) [] :=
    clear_append.mpr ⟨clear_literal (by decide) _, r.clear_behind (.inr rfl)⟩
  exact prefix_of_clear (c := '.') (dropPrefix?_eq_some.mpr rfl) hclear rfl (dropPrefix?_eq_some.mpr rfl) hnames.symm

theorem standsOn (r : Row) : r.entry.StandsOn r.written := by
  refine ⟨r.before, r.name, ⟨⟨_, ⟨r.isLabel, _, r.endsCell_ending, rfl⟩, r.written_eq⟩, r.name_ne⟩, rfl, ?_⟩
  intro before name term hlink
  refine ⟨starts_first hlink, ?_⟩
  rintro rfl
  exact name_longest hlink

/-- A row is read as it was written. -/
theorem ofLine?_written (r : Row) : Entry.ofLine? r.written = some r.entry := Entry.ofLine?_eq_some.mpr r.standsOn

/-- A row without the carriage return at its end. -/
def chomped (r : Row) : Row where
  before := r.before
  name := r.name
  term := r.term
  parameters := r.parameters
  after := chomp r.after
  one_line := by
    have h := r.one_line
    simp only [List.forall_mem_cons] at h ⊢
    exact ⟨h.1, h.2.1, fun hin => h.2.2.1 ((isPrefix_chomp _).subset hin), h.2.2.2⟩
  name_ne := r.name_ne
  no_quote := r.no_quote
  isLabel := r.isLabel
  no_name := by
    have h := r.no_name
    rw [List.forall_mem_cons] at h ⊢
    have hin := (isPrefix_chomp r.after).isInfix
    exact ⟨⟨fun h' => h.1.1 (h'.trans hin), fun h' => h.1.2 (h'.trans hin)⟩, h.2⟩

theorem chomp_written (r : Row) : chomp r.written = r.chomped.written := by
  have hend : chomp (cellEnd ++ r.after) = cellEnd ++ chomp r.after := by
    by_cases h : r.after = []
    · rw [h]
      rfl
    · exact chomp_append h cellEnd
  have hfront : ∀ r : Row, r.written =
      r.before ++ (linkStart ++ (r.name ++ (labelStart ++ (r.term ++ r.template)))) ++ (cellEnd ++ r.after) := by
    intro r
    rw [written_eq, ending]
    simp only [List.append_assoc]
  have hne : cellEnd ++ r.after ≠ [] := List.append_ne_nil_of_left_ne_nil (by decide) _
  rw [hfront, hfront, chomp_append hne, hend]
  rfl

theorem not_mem_written (r : Row) : '\n' ∉ r.written := by
  have h := r.one_line
  simp only [List.forall_mem_cons] at h
  obtain ⟨hbefore, hname, hafter, hparameters⟩ := h
  have hterm : '\n' ∉ r.term := fun hin => absurd (r.isLabel.chars _ hin) (by decide)
  have htemplate : '\n' ∉ r.template := by
    unfold template
    split
    · rename_i parameters hsome
      have := hparameters parameters (by rw [hsome]; exact List.mem_singleton_self _)
      simpa using this
    · exact List.not_mem_nil
  simp [written, href, *]

end Row

/-! ## Lines -/

theorem EndsCell.holds_cellEnd {rest : Text} (h : EndsCell rest) : cellEnd <:+: rest := by
  cases h with
  | plain rest => exact ⟨[], rest, rfl⟩
  | template parameters rest =>
    refine ⟨parametersStart ++ (parameters ++ "&gt;".toList), rest, ?_⟩
    simp only [List.append_assoc]
    rfl

/-- A line without the end of a cell has no link. -/
theorem ofLine?_no_cell {text : Text} (h : ¬cellEnd <:+: text) : Entry.ofLine? text = none := by
  refine Entry.ofLine?_eq_none.mpr ?_
  rintro before name term ⟨⟨found, ⟨-, rest, hends, rfl⟩, hline⟩, -⟩
  have hin : rest <:+ text :=
    ⟨before ++ (linkStart ++ (name ++ (labelStart ++ term))), by rw [hline]; simp only [List.append_assoc]⟩
  exact h (hends.holds_cellEnd.trans hin.isInfix)

namespace Line

def entry? (l : Line) : Option Entry := l.row?.map Row.entry

theorem not_mem_written (l : Line) : '\n' ∉ l.written := by
  cases l with
  | row r => exact r.not_mem_written
  | other text one_line no_cell => exact one_line

theorem read (l : Line) : Entry.ofLine? l.written = l.entry? := by
  cases l with
  | row r => exact r.ofLine?_written
  | other text one_line no_cell => exact ofLine?_no_cell no_cell

/-- A line is read in the same way without the carriage return at its end. -/
theorem read_chomp (l : Line) : Entry.ofLine? (chomp l.written) = l.entry? := by
  cases l with
  | row r => exact r.chomp_written ▸ r.chomped.ofLine?_written
  | other text one_line no_cell => exact ofLine?_no_cell fun hin => no_cell (hin.trans (isPrefix_chomp text).isInfix)

/-- A line with its end is the first that is read, and reading goes on behind it. -/
theorem entries_append (l : Line) (e : LineEnd) (rest : Text) :
    (lines (l.written ++ (e.written ++ rest))).filterMap Entry.ofLine? =
      l.entry?.toList ++ (lines rest).filterMap Entry.ofLine? := by
  have hfirst : ∃ line, lines (l.written ++ (e.written ++ rest)) = line :: lines rest ∧
      Entry.ofLine? line = l.entry? := by
    cases e with
    | newline => exact ⟨_, lines_append l.not_mem_written rest, l.read_chomp⟩
    | returnNewline =>
      have hline : '\n' ∉ l.written ++ ['\r'] := by simpa using l.not_mem_written
      refine ⟨_, ?_, l.read⟩
      rw [← chomp_return l.written, ← lines_append hline, chomp_return, List.append_assoc]
      rfl
  obtain ⟨line, hlines, hline⟩ := hfirst
  rw [hlines, List.filterMap_cons, hline]
  cases l.entry? <;> rfl

/-- A last line is read without an end. -/
theorem entries_last (l : Line) : (lines l.written).filterMap Entry.ofLine? = l.entry?.toList := by
  by_cases hne : l.written = []
  · rw [hne, ← l.read, hne]
    rfl
  · rw [lines_eq_self l.not_mem_written hne, List.filterMap_cons, l.read]
    cases l.entry? <;> rfl

end Line

/-! ## Pages -/

theorem entries_written (p : IndexPage) :
    (lines p.written).filterMap Entry.ofLine? = p.rows.map Row.entry := by
  obtain ⟨ls, last⟩ := p
  rw [IndexPage.written, IndexPage.rows]
  induction ls with
  | nil =>
    rw [List.flatMap_nil, List.nil_append, last.entries_last, Line.entry?]
    cases last.row? <;> rfl
  | cons l ls ih =>
    rw [List.flatMap_cons, List.append_assoc, List.append_assoc, Line.entries_append, ih, List.filterMap_cons,
      Line.entry?]
    cases l.1.row? <;> rfl

theorem addEntry_entry (root : Text) (m : TermMap) (r : Row) : addEntry root m r.entry = addRow root m r := by
  unfold addEntry Entry.terms addRow
  by_cases h : r.term = "basic_string".toList
  · have hterm : r.entry.term = basicString := h
    rw [if_pos hterm, if_pos h, hterm]
    rfl
  · have hterm : r.entry.term ≠ basicString := h
    rw [if_neg hterm, if_neg h]
    rfl

/-- **Reading undoes writing.** A row is read as the entry of its term and its page, whatever stands in front of it, and
an index page as the map to which its rows were added in order. -/
theorem parseIndex_written :
    (∀ r : Row, Entry.ofLine? r.written = some ⟨r.term, r.href⟩) ∧
    ∀ root (p : IndexPage), parseIndex root p.written = p.rows.foldl (addRow root) [] := by
  refine ⟨Row.ofLine?_written, fun root p => ?_⟩
  rw [parseIndex, entries_written, List.foldl_map]
  simp only [addEntry_entry]

/-- A page whose first row has another link in front of its own, and parameters with a quote; the end of a template
stands behind the second row, and the third one has no newline. -/
def crowdedPage : IndexPage where
  lines :=
    [(.other "<TABLE> <A href=\"Map.html\">map</A>".toList (by decide) (by decide), .newline),
      (.row {
        before := "<TD><A href=\"old.html\">vector</A></TD>".toList
        name := "s<A>".toList
        term := "basic_string".toList
        parameters := some "T=\"A\"".toList
        after := "<TD>.html\r".toList
        one_line := by decide
        name_ne := by decide
        no_quote := by decide
        isLabel := ⟨by decide, List.all_eq_true.mp (by decide)⟩
        no_name := by decide }, .newline),
      (.row {
        before := []
        name := "v".toList
        term := "vector".toList
        parameters := none
        after := "&lt;T&gt;</A></TD>".toList
        one_line := by decide
        name_ne := by decide
        no_quote := by decide
        isLabel := ⟨by decide, List.all_eq_true.mp (by decide)⟩
        no_name := by decide }, .returnNewline)]
  last := .row {
    before := []
    name := "w".toList
    term := "string".toList
    parameters := some []
    after := []
    one_line := by decide
    name_ne := by decide
    no_quote := by decide
    isLabel := ⟨by decide, List.all_eq_true.mp (by decide)⟩
    no_name := by decide }

/-- The link in front of the first row adds nothing, and `string` has the page of the last row. -/
theorem parseIndex_written_crowded :
    crowdedPage.written = "<TABLE> <A href=\"Map.html\">map</A>\n".toList ++
      "<TD><A href=\"old.html\">vector</A></TD><A href=\"s<A>.html\">basic_string".toList ++
      "&lt;T=\"A\"&gt;</A></TD><TD>.html\r\n<A href=\"v.html\">vector</A></TD>&lt;T&gt;</A></TD>\r\n".toList ++
      "<A href=\"w.html\">string&lt;&gt;</A></TD>".toList ∧
    parseIndex "/d".toList crowdedPage.written =
      [("basic_string".toList, "/d/s<A>.html".toList), ("string".toList, "/d/w.html".toList),
        ("vector".toList, "/d/v.html".toList), ("wstring".toList, "/d/s<A>.html".toList)] :=
  ⟨by decide +kernel, (parseIndex_written.2 _ _).trans (by decide +kernel)⟩

end DocViewer.Stl
