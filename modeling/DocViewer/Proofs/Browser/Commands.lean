import DocViewer.Proofs.Browser.Likeness
import DocViewer.Proofs.Text.Lines

/-!
# The commands that a browser runs

Only manual pages need commands, and these have three forms (`Documented`): sections and page are arguments of their
own, and nothing else of what the reader asks for reaches a program. `Commanded` says for a manual page which of them
are run: the formatter is run on the source of the page if there is one (`HasSource`). How the programs end makes no
difference to a run (`same_ending`).

`commands_of_run` puts these together.
-/

namespace DocViewer

open World ManPages

/-! ## Sources of manual pages -/

/-- The path on the first line that a command prints, if it starts. -/
def World.Names (w : World) (c : Command) (path : Text) : Prop :=
  ∃ captured, (w.tools w.calls w.disk c).1 = .ok captured ∧ path = trim (captured.text.takeWhile (· ≠ '\n'))

/-- The command names a file, and the file holds the source: as it is, or compressed if its name ends in `.gz`. -/
def World.HasSource (w : World) (c : Command) (source : Bytes) : Prop :=
  ∃ path data, w.Names c path ∧ path ≠ [] ∧ (w.ran c).disk.read path = .ok data ∧
    if ".gz".toList <:+ path then w.inflate data = .ok source else data = source

namespace World

variable {w : World} {c : Command} {path : Text}

theorem names_iff : w.Names c path ↔ ∃ text, w.printed c = .ok text ∧ path = pathIn text := by
  unfold Names printed reply
  simp only [pathIn, trim_firstLine]
  cases (w.tools w.calls w.disk c).1 with
  | error fault => simp [Except.map]
  | ok captured => simp [Except.map]

end World

namespace ManPages

/-- A source is the data of its file, or what they hold if they are compressed. -/
theorem readSource_of_read {inflate : Inflater} {d : Disk} {path : Text} {data : Bytes}
    (h : d.read path = .ok data) : readSource inflate d path =
      if ".gz".toList <:+ path then (inflate data).mapError (Error.decompress path) else .ok data := by
  have hgz : isCompressed path = true ↔ ".gz".toList <:+ path := isSome_dropSuffix?
  simp only [readSource, h, hgz]
  split
  · cases inflate data with
    | error reason => rfl
    | ok source => rfl
  · rfl

/-- A source is read if its file can be read and, if it is compressed, inflated. -/
theorem readSource_eq_ok {inflate : Inflater} {d : Disk} {path : Text} {source : Bytes} :
    readSource inflate d path = .ok source ↔ ∃ data, d.read path = .ok data ∧
      if ".gz".toList <:+ path then inflate data = .ok source else data = source := by
  cases hread : d.read path with
  | error fault =>
    rw [readSource, hread]
    constructor
    · intro h
      cases h
    · rintro ⟨data, h, -⟩
      cases h
  | ok data =>
    simp only [readSource_of_read hread, Except.ok.injEq, exists_eq_left']
    split
    · cases inflate data with
      | error reason => simp [Except.mapError]
      | ok found => simp [Except.mapError]
    · rw [Except.ok.injEq]

variable {m : ManPages} {sections page path : Text} {w : World}

/-- What comes of the path that the first command names. -/
theorem located_of_names (h : w.Names (m.locateCommand sections page) path) (hpath : path ≠ []) :
    m.located sections page w =
      (readSource w.inflate (w.ran (m.locateCommand sections page)).disk path).map some := by
  obtain ⟨text, htext, rfl⟩ := names_iff.mp h
  rw [located, htext]
  exact if_neg (by simpa using hpath)

/-- A blank first line means that there is no source. -/
theorem located_of_blank (h : w.Names (m.locateCommand sections page) []) : m.located sections page w = .ok none := by
  obtain ⟨text, htext, hblank⟩ := names_iff.mp h
  rw [located, htext]
  exact if_pos (by rw [← hblank]; rfl)

/-- There is a source if the first command names a file that holds one. -/
theorem located_eq_some {source : Bytes} : m.located sections page w = .ok (some source) ↔
    w.HasSource (m.locateCommand sections page) source := by
  have hsome : ∀ found : Except Error Bytes, found.map some = .ok (some source) ↔ found = .ok source := by
    intro found
    cases found <;> simp [Except.map]
  constructor
  · intro h
    obtain ⟨path, hnames⟩ : ∃ path, w.Names (m.locateCommand sections page) path := by
      cases htext : w.printed (m.locateCommand sections page) with
      | error e =>
        rw [located, htext] at h
        cases h
      | ok text => exact ⟨_, names_iff.mpr ⟨text, htext, rfl⟩⟩
    have hpath : path ≠ [] := by
      rintro rfl
      rw [located_of_blank hnames] at h
      cases h
    rw [located_of_names hnames hpath, hsome, readSource_eq_ok] at h
    obtain ⟨data, hread, hdata⟩ := h
    exact ⟨path, data, hnames, hpath, hread, hdata⟩
  · rintro ⟨path, data, hnames, hpath, hread, hdata⟩
    rw [located_of_names hnames hpath, hsome, readSource_eq_ok]
    exact ⟨data, hread, hdata⟩

end ManPages

/-! ## The commands for a manual page -/

/-- The commands that a browser may run, with what the reader has asked for in two places only. -/
inductive ManPages.Documented (m : ManPages) : Command → Prop
  | print (sections page : Text) (h : m.formatter = none) :
    Documented m ⟨m.program, ["-S".toList, sections, "--".toList, page], none⟩
  | locate (sections page : Text) {formatter : Text} (h : m.formatter = some formatter) :
    Documented m ⟨m.program, ["-S".toList, sections, "-w".toList, "--".toList, page], none⟩
  | format {formatter : Text} (h : m.formatter = some formatter) (source : Bytes) :
    Documented m ⟨formatter, ["-f".toList, "HTML".toList, "-r".toList, "man:%s(%s)".toList, "-S".toList], some source⟩

theorem ManPages.documented_of_mem {m : ManPages} {sections page : Text} {w : World} {c : Command}
    (h : c ∈ m.commands sections page w) : m.Documented c := by
  unfold commands at h
  split at h
  · rename_i hm
    rw [List.mem_singleton] at h
    rw [h]
    exact .print sections page hm
  · rename_i formatter hm
    split at h
    · rcases List.mem_cons.mp h with rfl | h
      · exact .locate sections page hm
      · rw [List.mem_singleton] at h
        rw [h]
        exact .format hm _
    · rw [List.mem_singleton] at h
      rw [h]
      exact .locate sections page hm

namespace Session

variable {ω : Type}

/-- The session where programs end in other ways. -/
def ending (s : Session ω) (status : List Command → Disk → Command → ExitStatus) : Session ω :=
  { s with world.tools := fun calls d c =>
      ((s.world.tools calls d c).1.map fun captured => { captured with status := status calls d c },
        (s.world.tools calls d c).2) }

theorem same_ending (s : Session ω) (status : List Command → Disk → Command → ExitStatus) :
    Same (s.ending status) s := by
  refine ⟨rfl, rfl, ?_, rfl, rfl, rfl, rfl, rfl⟩
  funext calls d c
  simp only [Tools.effect, ending]
  cases (s.world.tools calls d c).1 with
  | error fault => rfl
  | ok captured => rfl

/-- The commands that an operation runs, the first one first. -/
def commanded (s : Session ω) (op : Operation ω) : List Command := ((s.target? op).map s.commands).getD []

theorem documented_of_mem_commanded {s : Session ω} {op : Operation ω} {c : Command} (h : c ∈ s.commanded op) :
    s.browser.man.Documented c := by
  unfold commanded at h
  cases ht : s.target? op with
  | none =>
    rw [ht] at h
    exact absurd h List.not_mem_nil
  | some target =>
    rw [ht] at h
    cases target with
    | man page sections => exact documented_of_mem h
    | stl | file | web | malformed => exact absurd h List.not_mem_nil

/-- Only for manual pages are commands run. -/
theorem commanded_eq_nil {s : Session ω} {op : Operation ω}
    (h : ∀ page sections, s.target? op ≠ some (.man page sections)) : s.commanded op = [] := by
  unfold commanded
  cases ht : s.target? op with
  | none => rfl
  | some target =>
    cases target with
    | man page sections => exact absurd ht (h page sections)
    | stl | file | web | malformed => rfl

variable [Writer ω]

/-- What has been run when showing a manual page has led from `s` to `s'` with a result, where the browser looks for
manual pages with `m`. -/
structure Commanded (m : ManPages) (page sections : Text) (s s' : Session ω) (result : Except Error Outcome) :
    Prop where
  /-- Without a formatter, one command prints the page. -/
  plain : m.formatter = none →
    s'.world.calls = ⟨m.program, ["-S".toList, sections, "--".toList, page], none⟩ :: s.world.calls
  /-- With one, a first command names the source, and the formatter is run on the source if and only if there is one. -/
  formatted : ∀ formatter, m.formatter = some formatter → ∃ more,
    s'.world.calls =
      more ++ ⟨m.program, ["-S".toList, sections, "-w".toList, "--".toList, page], none⟩ :: s.world.calls ∧
    (∀ source, s.world.HasSource (m.locateCommand sections page) source ↔ more =
      [⟨formatter, ["-f".toList, "HTML".toList, "-r".toList, "man:%s(%s)".toList, "-S".toList], some source⟩]) ∧
    ((∀ source, ¬s.world.HasSource (m.locateCommand sections page) source) ↔ more = [])
  /-- If the first line is blank, the page is empty. -/
  blank : ∀ formatter, m.formatter = some formatter → s.world.Names (m.locateCommand sections page) [] →
    s'.world.calls = m.locateCommand sections page :: s.world.calls ∧ s.Shows [] (result, s')
  /-- If it names a file that cannot be read or inflated, the error tells which. -/
  unreadable : ∀ formatter, m.formatter = some formatter →
    ∀ path, s.world.Names (m.locateCommand sections page) path → path ≠ [] →
    ∀ fault, (s.world.ran (m.locateCommand sections page)).disk.read path = .error fault →
      s'.world.calls = m.locateCommand sections page :: s.world.calls ∧ result = .error (.io path fault)
  corrupt : ∀ formatter, m.formatter = some formatter →
    ∀ path, s.world.Names (m.locateCommand sections page) path → ".gz".toList <:+ path →
    ∀ data, (s.world.ran (m.locateCommand sections page)).disk.read path = .ok data →
    ∀ reason, s.world.inflate data = .error reason →
      s'.world.calls = m.locateCommand sections page :: s.world.calls ∧ result = .error (.decompress path reason)

variable {s : Session ω}

theorem calls_visit_man (s : Session ω) (page sections : Text) : (s.visit (.man page sections)).2.world.calls =
    (s.browser.man.commands sections page s.world).reverse ++ s.world.calls := visit_calls s _

section Formatted

variable {formatter page sections : Text} (hm : s.browser.man.formatter = some formatter)

include hm

/-- If there is a source, the formatter is run on it. -/
theorem calls_of_source {source : Bytes}
    (h : s.browser.man.located sections page s.world = .ok (some source)) :
    (s.visit (.man page sections)).2.world.calls =
      formatCommand formatter source :: s.browser.man.locateCommand sections page :: s.world.calls := by
  rw [calls_visit_man, ManPages.commands, hm, h]
  rfl

/-- If there is no source, only the first command is run. -/
theorem calls_of_no_source (h : ∀ source, s.browser.man.located sections page s.world ≠ .ok (some source)) :
    (s.visit (.man page sections)).2.world.calls =
      s.browser.man.locateCommand sections page :: s.world.calls := by
  rw [calls_visit_man, ManPages.commands, hm]
  cases hl : s.browser.man.located sections page s.world with
  | error e => rfl
  | ok found =>
    cases found with
    | none => rfl
    | some source => exact absurd hl (h source)

/-- The formatter is run on the source if and only if there is one. -/
theorem calls_formatted : ∃ more,
    (s.visit (.man page sections)).2.world.calls =
      more ++ s.browser.man.locateCommand sections page :: s.world.calls ∧
    (∀ source, s.world.HasSource (s.browser.man.locateCommand sections page) source ↔
      more = [formatCommand formatter source]) ∧
    ((∀ source, ¬s.world.HasSource (s.browser.man.locateCommand sections page) source) ↔ more = []) := by
  simp only [← located_eq_some]
  by_cases hsource : ∃ source, s.browser.man.located sections page s.world = .ok (some source)
  · obtain ⟨source, hl⟩ := hsource
    refine ⟨[formatCommand formatter source], calls_of_source hm hl, fun source' => ?_, fun h => ?_, fun h => ?_⟩
    · rw [hl, Except.ok.injEq, Option.some.injEq, List.singleton_inj]
      exact ⟨congrArg _, fun h => Option.some.inj (congrArg Command.stdin h)⟩
    · exact absurd hl (h source)
    · cases h
  · have hnone : ∀ source, s.browser.man.located sections page s.world ≠ .ok (some source) :=
      fun source hl => hsource ⟨source, hl⟩
    refine ⟨[], calls_of_no_source hm hnone, fun source => ⟨fun h => ?_, fun h => ?_⟩, fun _ => rfl, fun _ => hnone⟩
    · exact absurd h (hnone source)
    · cases h

/-- A manual page whose source is lost is lost. -/
theorem visit_of_located_error {e : Error} (h : s.browser.man.located sections page s.world = .error e) :
    (s.visit (.man page sections)).2.world.calls =
        s.browser.man.locateCommand sections page :: s.world.calls ∧
      (s.visit (.man page sections)).1 = .error e := by
  refine ⟨calls_of_no_source hm fun source => by simp [h], (visit_lost ?_).1⟩
  rw [pageOf, (ManPages.page_spec _ _ _ _).1, shown, hm, h]
  rfl

end Formatted

/-- A visit of a manual page runs the commands that are documented for it. -/
theorem visit_commanded (s : Session ω) (page sections : Text) : Commanded s.browser.man page sections s
    (s.visit (.man page sections)).2 (s.visit (.man page sections)).1 := by
  constructor
  case plain =>
    intro hm
    rw [calls_visit_man, ManPages.commands, hm]
    rfl
  case formatted =>
    intro formatter hm
    exact calls_formatted hm
  case blank =>
    intro formatter hm hnames
    have hl := located_of_blank hnames
    refine ⟨calls_of_no_source hm fun source => by simp [hl], visit_shows ?_⟩
    rw [pageOf, (ManPages.page_spec _ _ _ _).1, shown, hm, hl]
    rfl
  case unreadable =>
    intro formatter hm path hnames hpath fault hread
    apply visit_of_located_error hm
    rw [located_of_names hnames hpath, readSource, hread]
    rfl
  case corrupt =>
    intro formatter hm path hnames hgz data hread reason hdata
    have hpath : path ≠ [] := by
      rintro rfl
      exact absurd (List.suffix_nil.mp hgz) (by decide)
    apply visit_of_located_error hm
    rw [located_of_names hnames hpath, readSource_of_read hread, if_pos hgz, hdata]
    rfl

/-! ## Runs -/

theorem operate_calls (s : Session ω) (op : Operation ω) :
    (s.operate op).2.world.calls = (s.commanded op).reverse ++ s.world.calls := by
  cases op with
  | search text => exact visit_calls s _
  | follow link => exact visit_calls s _
  | visit target => exact visit_calls s target
  | index => exact (stlIndex_frame s).2.2.calls
  | hover | disk | display => rfl

/-- The commands of a run are documented. -/
theorem run_documented (s : Session ω) (ops : List (Operation ω)) : ∃ more,
    (s.run ops).2.world.calls = more ++ s.world.calls ∧ ∀ c ∈ more, s.browser.man.Documented c := by
  induction ops generalizing s with
  | nil => exact ⟨[], rfl, fun _ h => absurd h List.not_mem_nil⟩
  | cons op ops ih =>
    obtain ⟨more, hmore, hdocumented⟩ := ih (s.operate op).2
    rw [(operate_settings s op).2] at hdocumented
    refine ⟨more ++ (s.commanded op).reverse, by rw [run, hmore, operate_calls, List.append_assoc], fun c hc => ?_⟩
    rcases List.mem_append.mp hc with hc | hc
    · exact hdocumented c hc
    · exact documented_of_mem_commanded (List.mem_reverse.mp hc)

/-- An operation that is about a target visits it. -/
theorem operate_visit {s : Session ω} {op : Operation ω} {target : Target} (h : s.target? op = some target) :
    s.operate op = (some (s.visit target).1, (s.visit target).2) := by
  cases op with
  | search | follow | visit =>
    rw [target?, Option.some.injEq] at h
    rw [← h]
    rfl
  | hover | index | disk | display => cases h

/-- **What a browser runs.** Every command of a run has one of three documented forms, in which only sections and page
are what the reader has asked for. Only manual pages need commands: one without a formatter, and with one a first
command that names the source and the formatter for the source, if there is one. How the programs end makes no
difference to what is shown, run, asked for or left on the disk. -/
theorem commands_of_run (s : Session ω) (ops : List (Operation ω)) :
    (∃ more, (s.run ops).2.world.calls = more ++ s.world.calls ∧ ∀ c ∈ more, s.browser.man.Documented c) ∧
    (∀ op, (∀ page sections, (s.run ops).2.target? op ≠ some (.man page sections)) →
      ((s.run ops).2.operate op).2.world.calls = (s.run ops).2.world.calls) ∧
    (∀ op page sections, (s.run ops).2.target? op = some (.man page sections) →
      ∃ result, ((s.run ops).2.operate op).1 = some result ∧
        Commanded s.browser.man page sections (s.run ops).2 ((s.run ops).2.operate op).2 result) ∧
    ∀ status, Parallel ((s.ending status).run ops) (s.run ops) := by
  refine ⟨run_documented s ops, fun op h => ?_, fun op page sections h => ?_,
    fun status => (same_ending s status).run ops⟩
  · rw [operate_calls, commanded_eq_nil h]
    rfl
  · rw [operate_visit h, ← (run_settings s ops).2]
    exact ⟨_, rfl, visit_commanded _ page sections⟩

end Session

end DocViewer
