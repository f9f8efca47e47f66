import DocViewer.CommandLine.Run
import DocViewer.Gzip.Member
import DocViewer.Proofs.Browser.Library
import DocViewer.Proofs.Text.Decoding

/-!
# The terms of the library, as they are listed and searched for

The URLs of searches, the index page and the index have a grammar of terms each. `library_terms` says that these agree:
what is listed can be searched for, whatever is on the disk.

The program lists the terms to an output without limits, where writing always succeeds (`Sink.Unlimited.writeAll`), so
that its lines are the terms of the index (`lines_listed`).
-/

namespace DocViewer

open Writer Target

/-! ## Writing without limits -/

/-- The sink takes whatever it is given. -/
structure Sink.Unlimited (s : Sink) : Prop where
  script : s.script = []
  maxWrite : s.maxWrite = none
  room : s.room = none

namespace Sink.Unlimited

theorem accepted {s : Sink} (h : s.Unlimited) (b : Bytes) :
    ∃ s', Writer.write s b = (.accepted b.length, s') ∧ s'.Unlimited := by
  have hwrite : s.write b = (.accepted b.length, { s with room := none, writes := b :: s.writes }) := by
    simp [Sink.write, h.script, accept, h.maxWrite, h.room, cut]
  exact ⟨_, hwrite, h.script, h.maxWrite, rfl⟩

/-- All that is written to a page that arrives in an unlimited sink is taken at once. -/
theorem arriving_accepted {a : Arriving Sink} (h : a.viewport.sink.Unlimited) (b : Bytes) :
    ∃ a', Writer.write a b = (.accepted b.length, a') ∧ a'.viewport.sink.Unlimited := by
  obtain ⟨s', hwrite, hs'⟩ := h.accepted b
  have harriving : a.write b =
      (.accepted b.length, { a with viewport.sink := s' }.sniff (b.take b.length)) := by rw [Arriving.write, hwrite]
  exact ⟨_, harriving, by rwa [Arriving.sniff_sink]⟩

theorem writeAll_ok {a : Arriving Sink} (h : a.viewport.sink.Unlimited) (b : Bytes) :
    ∃ a', writeAll a b = (.ok (), a') ∧ a'.viewport.sink.Unlimited := by
  by_cases hb : b = []
  · exact ⟨a, by rw [writeAll, dif_pos hb], h⟩
  · obtain ⟨a', hwrite, ha'⟩ := h.arriving_accepted b
    refine ⟨a', ?_, ha'⟩
    obtain ⟨n, hn⟩ := Nat.exists_eq_succ_of_ne_zero (mt List.length_eq_zero_iff.mp hb)
    rw [writeAll, dif_neg hb]
    split <;> rename_i hw <;> rw [hwrite, hn] at hw <;> cases hw
    rw [writeAll, dif_pos (List.drop_eq_nil_of_le (Nat.le_of_eq hn))]

theorem writeEach_ok {a : Arriving Sink} (h : a.viewport.sink.Unlimited) (chunks : List Bytes) :
    (writeEach a chunks).1 = .ok () := by
  induction chunks generalizing a with
  | nil => rfl
  | cons b chunks ih =>
    obtain ⟨a', hwrite, ha'⟩ := writeAll_ok h b
    rw [writeEach, hwrite]
    exact ih ha'

end Sink.Unlimited

/-! ## What is printed -/

/-- Listing the terms of a loaded index to an unlimited sink succeeds. -/
theorem Session.listTerms_ok {s : Session Sink} (hsink : s.viewport.sink.Unlimited) {terms : Nat}
    (hstatus : s.stlIndex.1.status = .loaded terms) : s.listTerms.1 = .ok true := by
  obtain ⟨-, hview, -⟩ := stlIndex_frame s
  have hwrite := Sink.Unlimited.writeEach_ok (a := s.viewport.stream) hsink
    (s.stlIndex.1.names.flatMap fun t => [encode t, encode ['\n']])
  simp only [listTerms, hstatus, hview, writeLines, hwrite]

/-- Listing the terms to an unlimited sink writes each of them on a line of its own. -/
theorem Session.held_listTerms {s : Session Sink} (hsink : s.viewport.sink.Unlimited) {root file : Text} {d : Disk}
    (hindex : s.stlIndex.1 = Stl.Index.build root file d) :
    held s.listTerms.2.viewport.sink =
      held s.viewport.sink ++ encode (unlines (Stl.Index.build root file d).names) := by
  obtain ⟨taken, hfront, hheld, hall⟩ := listTerms_written s
  rw [hindex] at hfront hall
  rw [hheld]
  by_cases hloaded : ∃ terms, (Stl.Index.build root file d).status = .loaded terms
  · obtain ⟨terms, hstatus⟩ := hloaded
    rw [hall (listTerms_ok hsink (hindex ▸ hstatus))]
  · have hnone := Stl.Index.names_of_not_loaded fun terms hstatus => hloaded ⟨terms, hstatus⟩
    rw [hnone] at hfront ⊢
    rw [List.prefix_nil.mp hfront]
    rfl

namespace CommandLine

/-- The lines that the program prints when it lists the terms are the terms of the index. -/
theorem lines_listed {surroundings : Surroundings} {args : List Text} {i : Invocation}
    (hargs : Invocation.ofArguments surroundings.environment args = .ok i) (htask : i.task = .terms)
    (houtput : i.output = none) :
    lines (decodeLossy (run surroundings args).stdout) =
      (Stl.Index.build i.config.stlRoot i.config.stlIndex surroundings.disk).names := by
  let s : Session Sink := ⟨.new i.config surroundings.disk, .new Sink.unlimited,
    { tools := surroundings.tools, fetcher := surroundings.fetcher, inflate := surroundings.inflate,
      disk := surroundings.disk }⟩
  have hstdout : (run surroundings args).stdout = held s.listTerms.2.viewport.sink := by
    simp only [run, hargs, invoke, houtput, openOutput, htask, perform, save]
    rfl
  have hheld : held s.listTerms.2.viewport.sink = held s.viewport.sink ++ _ :=
    Session.held_listTerms ⟨rfl, rfl, rfl⟩ rfl
  have hempty : held s.viewport.sink = [] := rfl
  rw [hstdout, hheld, hempty, List.nil_append, decodeLossy_encode]
  refine lines_unlines fun term hterm => ?_
  have hchars := (Stl.Index.isLabel_of_mem_names hterm).chars
  exact ⟨fun h => absurd (hchars _ h) (by decide), fun h => absurd (hchars _ h) (by decide)⟩

end CommandLine

/-! ## Listing and searching -/

/-- **What is listed can be searched for**, whatever is on the disk. A search refers to a term if its text is the URL of
that term, and is malformed if it starts with `stl:` otherwise. The two URLs of a term come to the same, and there is no
page for it if the index does not list it, as when there is no index. A term that is listed is a label, is looked up,
and has a page when it is searched for; the terms are listed line by line. -/
theorem library_terms (root file : Text) (d : Disk) :
    (∀ text sections term, ofSearch text sections = .stl term ↔ IsTermUrl (trim text) term) ∧
    (∀ text sections, stlScheme <+: trim text → (∀ term, ¬IsTermUrl (trim text) term) →
      ofSearch text sections = .malformed (trim text)) ∧
    (∀ url term, IsTermUrl url term → trim url = url) ∧
    (∀ {ω : Type} [Writer ω] (s : Session ω), s.stlIndex.1 = .build root file d →
      ∀ text text' term, IsTermUrl (trim text) term → IsTermUrl (trim text') term →
        s.search text' = s.search text ∧ (s.search text).1 ≠ .ok .ignored ∧
        ((s.search text).1 = .ok (.notFound term) ↔ term ∉ (Stl.Index.build root file d).names) ∧
        ((∀ terms, (Stl.Index.build root file d).status ≠ .loaded terms) →
          (s.search text).1 = .ok (.notFound term))) ∧
    (∀ term ∈ (Stl.Index.build root file d).names,
      Stl.IsLabel term ∧ ((Stl.Index.build root file d).lookup term).isSome ∧
      ∀ {ω : Type} [Writer ω] (s : Session ω), s.stlIndex.1 = .build root file d →
        Presented (s.search (stlScheme ++ term)).1) ∧
    (∀ {ω : Type} [Writer ω] (s : Session ω), s.stlIndex.1 = .build root file d →
      ∃ taken, taken <+: encode (unlines (Stl.Index.build root file d).names) ∧
        held s.listTerms.2.viewport.sink = held s.viewport.sink ++ taken ∧
        (s.listTerms.1 = .ok true → taken = encode (unlines (Stl.Index.build root file d).names))) ∧
    ∀ surroundings args i, CommandLine.Invocation.ofArguments surroundings.environment args = .ok i →
      i.task = .terms → i.output = none → lines (decodeLossy (CommandLine.run surroundings args).stdout) =
        (Stl.Index.build i.config.stlRoot i.config.stlIndex surroundings.disk).names := by
  refine ⟨fun _ _ _ => ofSearch_eq_stl, ?_, fun _ _ => IsTermUrl.trim_eq, ?_, ?_, ?_,
    fun _ _ _ => CommandLine.lines_listed⟩
  · intro text sections hscheme hno
    rw [ofSearch_stlUrl hscheme, ofStlUrl_eq_malformed hno]
  · intro ω _ s hindex text text' term h h'
    obtain ⟨hignored, hfound⟩ := s.search_term h
    rw [hindex] at hfound
    refine ⟨by rw [Session.search_termUrl h, Session.search_termUrl h'], hignored, hfound, fun hstatus => ?_⟩
    rw [hfound, Stl.Index.names_of_not_loaded hstatus]
    exact List.not_mem_nil
  · intro term hterm
    have hlabel := Stl.Index.isLabel_of_mem_names hterm
    refine ⟨hlabel, (Stl.Index.lookup_isSome hlabel.isTerm).mpr hterm, fun s hindex => ?_⟩
    have hurl : IsTermUrl (stlScheme ++ term) term := ⟨hlabel.isTerm, .inl rfl⟩
    exact Session.search_listed (by rwa [hurl.trim_eq]) (by rwa [hindex])
  · intro ω _ s hindex
    rw [← hindex]
    exact s.listTerms_written

/-- A disk with documentation that describes vectors, as its index says. -/
def vectorDisk : Disk where
  entries :=
    [(["docs".toList], .directory),
      (["stl_index.html".toList, "docs".toList],
        .file (encode "<A href=\"Vector.html\">vector</A></TD>".toList) false)]
  home := []

/-- A browser that knows this documentation. -/
def vectorSession : Session Sink where
  browser := .new { stlRoot := "docs".toList } vectorDisk
  viewport := .new Sink.unlimited
  world :=
    { tools := fun _ d _ => (.error .missing, d), fetcher := fun _ _ => .refused [], inflate := Gzip.contents
      disk := vectorDisk }

/-- What follows the name of a term makes its URL malformed; a search for a vector finds its page with and without `std::`,
and a list, which the index does not have, is not found. -/
theorem library_terms_vector :
    (stlScheme <+: trim "stl:vector<int>".toList ∧
      ofSearch "stl:vector<int>".toList [] = .malformed "stl:vector<int>".toList) ∧
    (vectorSession.stlIndex.1 = .build "docs".toList "stl_index.html".toList vectorDisk ∧
      vectorSession.search " stl:std::vector ".toList = vectorSession.search "stl:vector".toList ∧
      (vectorSession.search "stl:list".toList).1 = .ok (.notFound "list".toList)) ∧
    ("vector".toList ∈ (Stl.Index.build "docs".toList "stl_index.html".toList vectorDisk).names ∧
      Presented (vectorSession.search (stlScheme ++ "vector".toList)).1) ∧
    lines (decodeLossy (CommandLine.run
      ⟨[], [], fun _ d _ => (.error .missing, d), fun _ _ => .refused [], Gzip.contents, vectorDisk⟩
      ["--stl-root".toList, "docs".toList, "stl-terms".toList]).stdout) = ["vector".toList] := by
  obtain ⟨-, hmalformed, -, hsearch, hlisted, -, hlines⟩ :=
    library_terms "docs".toList "stl_index.html".toList vectorDisk
  have hvector : IsTerm "vector".toList := ⟨by decide, List.all_eq_true.mp (by decide)⟩
  have hlist : IsTerm "list".toList := ⟨by decide, List.all_eq_true.mp (by decide)⟩
  have hnames : (Stl.Index.build "docs".toList "stl_index.html".toList vectorDisk).names = ["vector".toList] := by
    decide +kernel
  have hmem : "vector".toList ∈ (Stl.Index.build "docs".toList "stl_index.html".toList vectorDisk).names := by
    rw [hnames]
    exact List.mem_cons_self
  have hnot : "list".toList ∉ (Stl.Index.build "docs".toList "stl_index.html".toList vectorDisk).names := by
    rw [hnames]
    decide
  have hno : ∀ term, ¬IsTermUrl (trim "stl:vector<int>".toList) term := fun term h =>
    absurd ((ofStlUrl_eq_stl.mpr h).symm.trans (by decide : _ = Target.malformed "stl:vector<int>".toList)) (by simp)
  have hurl : IsTermUrl (trim "stl:vector".toList) "vector".toList := ⟨hvector, by decide⟩
  have hstd : IsTermUrl (trim " stl:std::vector ".toList) "vector".toList := ⟨hvector, by decide⟩
  have hurl' : IsTermUrl (trim "stl:list".toList) "list".toList := ⟨hlist, by decide⟩
  refine ⟨⟨by decide, hmalformed _ _ (by decide) hno⟩, ⟨rfl, (hsearch vectorSession rfl _ _ _ hurl hstd).1, ?_⟩,
    ⟨hmem, (hlisted _ hmem).2.2 vectorSession rfl⟩, ?_⟩
  · exact (hsearch vectorSession rfl _ _ _ hurl' hurl').2.2.1.mpr hnot
  · have hargs : CommandLine.Invocation.ofArguments [] ["--stl-root".toList, "docs".toList, "stl-terms".toList] =
        .ok { task := .terms, config := { stlRoot := "docs".toList }, log := { ansi := false }, output := none } := by
      decide +kernel
    exact (hlines ⟨[], [], _, _, _, vectorDisk⟩ _ _ hargs rfl rfl).trans hnames

end DocViewer
