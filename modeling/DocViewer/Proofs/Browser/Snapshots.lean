import DocViewer.Proofs.Browser.Altering
import DocViewer.Proofs.Browser.Library
import DocViewer.Proofs.Stl.Index

/-!
# What a browser takes from the disk, and when

A run may change the disk at any time, but the browser looks at it at three times only.

- The formatter is chosen when the browser is created (`run_settings`).
- The index of the library is read when it is needed for the first time in a run (`firstNeed?`), unless the browser was
  given one; what it is hangs on the disk of that time alone (`hasRead_build`). The browser keeps this index
  (`run_index`), and the log tells of no other reading (`run_readings`). With an index of its own, it makes no difference
  to the browser where the documentation is (`run_elsewhere`).
- The page of a term is read when it is shown (`visit_listed`). A term that the index does not list has none
  (`visit_unlisted`).

`snapshots_of_run` puts these together.
-/

namespace DocViewer

open World

/-! ## Readings in the log -/

/-- How reading the index went, if the notice tells of that. -/
def Log.Notice.reading? : Log.Notice → Option Text
  | .record r => if r.source = "gman::stl" then some r.message else none
  | .line _ => none

/-- How each reading of the index went, the last one first. -/
def World.readings (w : World) : List Text := w.journal.filterMap Log.Notice.reading?

namespace World

/-- Records from elsewhere tell of no reading. -/
theorem log_readings (w : World) (level : Log.Level) {source : String} (h : source ≠ "gman::stl") (message : String)
    (fields : List (String × Log.Value)) : (w.log level source message fields).readings = w.readings := by
  have hnone : Log.Notice.reading? (.record ⟨level, source, message.toList, fields⟩) = none := if_neg h
  rw [readings, log, List.filterMap_cons_none hnone, ← readings]

theorem run_readings (w : World) (c : Command) : (w.run c).2.readings = w.readings := by
  have hlog : ∀ (w : World) level message fields, (w.log level "gman::invoker" message fields).readings = w.readings :=
    fun w level => log_readings w level (by decide)
  unfold run
  simp only
  split
  · exact hlog _ _ _ _
  · rw [hlog]
    split
    · exact hlog _ _ _ _
    · rw [hlog]
      exact hlog _ _ _ _

end World

namespace ManPages

theorem output_readings {c : Command} {w w' : World} {result : Except Error Text} (h : output c w = (result, w')) :
    w'.readings = w.readings := by
  have hrun := run_readings w c
  unfold output at h
  split at h
  · rename_i hr
    cases h
    rwa [hr] at hrun
  · rename_i hr
    rw [hr] at hrun
    simp only at h
    split at h
    · cases h
      exact hrun
    · cases h
      rwa [log_readings _ _ (by decide)]

theorem formatted_readings (m : ManPages) (formatter sections page : Text) (w : World) :
    (m.formatted formatter sections page w).2.readings = w.readings := by
  have hlog : ∀ (w : World) level message fields, (w.log level "gman::man" message fields).readings = w.readings :=
    fun w level => log_readings w level (by decide)
  unfold formatted
  split
  · rename_i ho
    exact output_readings ho
  · rename_i ho
    simp only
    split
    · rw [hlog, hlog, output_readings ho]
    · split
      · rw [hlog, output_readings ho]
      · -- the formatter runs in the world with the record of where the source is
        split
        · rename_i ho'
          rw [output_readings ho', hlog, output_readings ho]
        · rename_i ho'
          rw [output_readings ho', hlog, output_readings ho]

/-- Looking for a manual page reads no index. -/
theorem page_readings (m : ManPages) (sections page : Text) (w : World) :
    (m.page sections page w).2.readings = w.readings := by
  unfold ManPages.page
  split
  · exact formatted_readings _ _ _ _ _
  · unfold plain
    split
    · rename_i ho
      exact output_readings ho
    · rename_i ho
      exact output_readings ho

end ManPages

namespace Session

variable {ω : Type}

/-! ## Needing the index -/

/-- The index of the library is needed for the operation. -/
def needsIndex (s : Session ω) : Operation ω → Bool
  | .index => true
  | op => (s.target? op).any Target.needsIndex

/-- From `s` to `s'` the index was read once. -/
def HasRead (s s' : Session ω) (i : Stl.Index) : Prop :=
  s'.browser.index = some i ∧ s'.world.readings = i.status.message :: s.world.readings

/-- The index is read from the disk at most once: unless the browser has one. -/
theorem stlIndex_readings (s : Session ω) : s.stlIndex.2.world.readings =
    (if s.browser.index.isNone then [s.stlIndex.1.status.message] else []) ++ s.world.readings := by
  unfold stlIndex
  split
  · rename_i h
    rw [h]
    rfl
  · rename_i h
    rw [h]
    have hsome : ∀ status : Stl.Status, (logStatus s.world status).readings =
        [status.message] ++ s.world.readings := by
      intro status
      have hreading : ∀ level, Log.Notice.reading?
          (.record ⟨level, "gman::stl", (String.ofList status.message).toList, []⟩) = some status.message := by
        intro level
        rw [String.toList_ofList]
        rfl
      exact List.filterMap_cons_some (hreading _)
    exact hsome _

variable [Writer ω]

/-- The disk as it is when the index is needed for the first time in a run. -/
def firstNeed? (s : Session ω) : List (Operation ω) → Option Disk
  | [] => none
  | op :: ops => if s.needsIndex op then some s.world.disk else (s.operate op).2.firstNeed? ops

theorem operate_index (s : Session ω) (op : Operation ω) : (s.operate op).2.browser.index =
    if s.needsIndex op then some s.stlIndex.1 else s.browser.index := by
  cases op with
  | search text => exact visit_index s _
  | follow link => exact visit_index s _
  | visit target => exact visit_index s target
  | index => exact congrArg Browser.index (stlIndex_browser s)
  | hover | disk | display => rfl

/-- A browser keeps its index. One that has none takes the one that is on the disk when it is needed first. -/
theorem run_index (s : Session ω) (ops : List (Operation ω)) : (s.run ops).2.browser.index =
    s.browser.index.or ((s.firstNeed? ops).map
      (Stl.Index.build s.browser.config.stlRoot s.browser.config.stlIndex)) := by
  induction ops generalizing s with
  | nil => rw [firstNeed?, Option.map_none, Option.or_none, run]
  | cons op ops ih =>
    rw [run, ih, operate_index, (operate_settings s op).1, firstNeed?]
    split
    · rw [Option.some_or, stlIndex_fst]
      cases s.browser.index with
      | some index => rfl
      | none => rfl
    · rfl

/-! ## How often the index is read -/

/-- A visit reads the index if it needs one that the browser does not have. -/
theorem visit_readings (s : Session ω) (target : Target) : (s.visit target).2.world.readings =
    (if target.needsIndex && s.browser.index.isNone then [s.stlIndex.1.status.message] else []) ++
      s.world.readings := by
  have hnoted : ∀ target, (s.noting target).world.readings = s.world.readings :=
    fun target => log_readings _ _ (by decide) _ _
  cases target with
  | man page sections =>
    rw [visit, openMan, present_world]
    exact (ManPages.page_readings _ _ _ _).trans (hnoted _)
  | stl term =>
    have hopen : ((s.noting (.stl term)).openStl term).2.world.readings =
        (s.noting (.stl term)).stlIndex.2.world.readings := by
      simp only [openStl]
      split
      · rw [present_world]
      · rw [present_world]
      · exact log_readings _ _ (by decide) _ _
    refine hopen.trans ?_
    rw [stlIndex_readings, stlIndex_noting, hnoted]
    rfl
  | file path => exact (congrArg readings (present_world _ _)).trans (hnoted _)
  | web url => exact (congrArg readings (openWeb_world _ _)).trans (hnoted _)
  | malformed input => exact (log_readings _ _ (by decide) _ _).trans (hnoted _)

theorem operate_readings (s : Session ω) (op : Operation ω) : (s.operate op).2.world.readings =
    (if s.needsIndex op && s.browser.index.isNone then [s.stlIndex.1.status.message] else []) ++
      s.world.readings := by
  cases op with
  | search text => exact visit_readings s _
  | follow link => exact visit_readings s _
  | visit target => exact visit_readings s target
  | index => exact stlIndex_readings s
  | hover | disk | display => rfl

/-- A run reads the index at most once: where it is needed first, unless the browser has one. -/
theorem run_readings (s : Session ω) (ops : List (Operation ω)) : (s.run ops).2.world.readings =
    (if s.browser.index.isSome then [] else ((s.firstNeed? ops).map fun d =>
      (Stl.Index.build s.browser.config.stlRoot s.browser.config.stlIndex d).status.message).toList) ++
        s.world.readings := by
  induction ops generalizing s with
  | nil => rw [firstNeed?, Option.map_none, Option.toList_none, ite_self, List.nil_append, run]
  | cons op ops ih =>
    rw [run, ih, operate_index, operate_readings, (operate_settings s op).1, firstNeed?, stlIndex_fst]
    cases s.needsIndex op with
    | false => rfl
    | true =>
      cases s.browser.index with
      | some index => rfl
      | none => rfl

/-- A browser without an index reads it from the disk on which it is needed first. -/
theorem hasRead_build {s : Session ω} {ops : List (Operation ω)} {d : Disk} (hnone : s.browser.index = none)
    (hneed : s.firstNeed? ops = some d) :
    s.HasRead (s.run ops).2 (.build s.browser.config.stlRoot s.browser.config.stlIndex d) := by
  constructor
  · rw [run_index, hnone, hneed]
    rfl
  · rw [run_readings, hnone, hneed]
    rfl

/-! ## An index of one's own -/

/-- The session with the documentation of the library elsewhere. -/
def elsewhere (s : Session ω) (root file : Text) : Session ω :=
  { s with browser.config := { s.browser.config with stlRoot := root, stlIndex := file } }

variable (root file : Text)

/-- A browser with an index of its own does not look where the documentation is. -/
theorem overlooks_elsewhere {b : Browser} {i : Stl.Index} (h : b.index = some i) :
    b.Overlooks fun b => { b with config := { b.config with stlRoot := root, stlIndex := file } } where
  man := rfl
  sections := rfl
  navigation := rfl
  index := rfl
  library hnone := by
    rw [h] at hnone
    cases hnone
  move _ := rfl
  keep _ := rfl

theorem operate_elsewhere {s : Session ω} {i : Stl.Index} (h : s.browser.index = some i) (op : Operation ω) :
    (s.elsewhere root file).operate op = ((s.operate op).1, (s.operate op).2.elsewhere root file) := by
  cases op with
  | hover url => rfl
  | search | follow | visit | index | disk | display => exact operate_altered (overlooks_elsewhere root file h) rfl

/-- With an index of its own, it makes no difference to a browser where the documentation is. -/
theorem run_elsewhere {s : Session ω} {i : Stl.Index} (h : s.browser.index = some i) (ops : List (Operation ω)) :
    (s.elsewhere root file).run ops = ((s.run ops).1, (s.run ops).2.elsewhere root file) := by
  induction ops generalizing s with
  | nil => rfl
  | cons op ops ih =>
    have hkept : (s.operate op).2.browser.index = some i := by
      rw [operate_index, stlIndex_of_some h, h, ite_self]
    rw [run, run, operate_elsewhere root file h, ih hkept]

/-! ## Snapshots -/

section Page

variable {s : Session ω} {term path : Text}

/-- The page of a term that the index lists is read from the disk as it is. -/
theorem visit_listed (h : s.stlIndex.1.lookup term = some path) :
    (∀ bytes, s.world.disk.read path = .ok bytes →
      s.Shows (Stl.displayPage (decodeLossy bytes) s.stlIndex.1.baseHref) (s.visit (.stl term))) ∧
    ∀ fault, s.world.disk.read path = .error fault → (s.visit (.stl term)).1 = .error (.io path fault) := by
  refine ⟨fun bytes hread => visit_shows ?_, fun fault hread => (visit_lost ?_).1⟩
  · simp only [pageOf, Stl.Index.page, h, Disk.page, hread]
  · simp only [pageOf, Stl.Index.page, h, Disk.page, hread]

theorem visit_unlisted (h : s.stlIndex.1.lookup term = none) : (s.visit (.stl term)).1 = .ok (.notFound term) := by
  rw [← stlIndex_noting s (.stl term)] at h
  exact openStl_unlisted h

end Page

/-- A session with a new browser, which may be given an index of its own and a place to start from. -/
def beginning (config : Config) (d : Disk) (given : Option Stl.Index) (navigation : Navigation) (v : Viewport ω)
    (w : World) : Session ω :=
  ⟨{ Browser.new config d with index := given, navigation }, v, w⟩

/-- What a browser that was created with the disk `d` has taken from the disk, and when, after a run from `s`. -/
structure Snapshots (config : Config) (d : Disk) (given : Option Stl.Index) (s : Session ω)
    (ops : List (Operation ω)) : Prop where
  /-- Manual pages go through the formatter if it was on the disk then. -/
  formatter : (s.run ops).2.browser.man = ⟨config.manProgram, config.formatter.filter d.isFile⟩
  commands : ∀ page sections, ((s.run ops).2.visit (.man page sections)).2.world.calls =
    (ManPages.commands ⟨config.manProgram, config.formatter.filter d.isFile⟩ sections page
      (s.run ops).2.world).reverse ++ (s.run ops).2.world.calls
  /-- An index that was not given is read when it is needed first, and never if it is not needed. -/
  index : given = none → (s.run ops).2.browser.index =
    (s.firstNeed? ops).map (Stl.Index.build config.stlRoot config.stlIndex)
  readings : given = none → (s.run ops).2.world.readings =
    ((s.firstNeed? ops).map fun d' => (Stl.Index.build config.stlRoot config.stlIndex d').status.message).toList ++
      s.world.readings
  /-- What is read is what the disk has then: no documentation, an index page that cannot be read, or one whose lines
  are the index. -/
  missing : given = none → ∀ d', s.firstNeed? ops = some d' → d'.isDirectory config.stlRoot = false →
    s.HasRead (s.run ops).2 ⟨config.stlRoot, [], .missing config.stlRoot⟩
  unreadable : given = none → ∀ d', s.firstNeed? ops = some d' → d'.isDirectory config.stlRoot = true →
    ∀ fault, d'.read (Path.join config.stlRoot config.stlIndex) = .error fault → s.HasRead (s.run ops).2
      ⟨config.stlRoot, [], .unreadable (Path.join config.stlRoot config.stlIndex) fault⟩
  loaded : given = none → ∀ d', s.firstNeed? ops = some d' → d'.isDirectory config.stlRoot = true →
    ∀ bytes, d'.read (Path.join config.stlRoot config.stlIndex) = .ok bytes → s.HasRead (s.run ops).2
      ⟨config.stlRoot, Stl.parseIndex config.stlRoot (decodeLossy bytes),
        .loaded (Stl.parseIndex config.stlRoot (decodeLossy bytes)).length⟩
  /-- From then on it is used as it is. -/
  kept : given = none → ∀ d', s.firstNeed? ops = some d' →
    (s.run ops).2.stlIndex = (Stl.Index.build config.stlRoot config.stlIndex d', (s.run ops).2)
  /-- An index that was given is used as it is, wherever the documentation is, and none is read. -/
  own : ∀ i, given = some i → (s.run ops).2.stlIndex = (i, (s.run ops).2) ∧
    (s.run ops).2.world.readings = s.world.readings
  elsewhere : ∀ i, given = some i → ∀ root file,
    (s.elsewhere root file).run ops = ((s.run ops).1, (s.run ops).2.elsewhere root file)
  /-- The page of a term is read when it is shown. -/
  page : ∀ term path, (s.run ops).2.stlIndex.1.lookup term = some path →
    (∀ bytes, (s.run ops).2.world.disk.read path = .ok bytes → (s.run ops).2.Shows
      (Stl.displayPage (decodeLossy bytes) (s.run ops).2.stlIndex.1.baseHref) ((s.run ops).2.visit (.stl term))) ∧
    ∀ fault, (s.run ops).2.world.disk.read path = .error fault →
      ((s.run ops).2.visit (.stl term)).1 = .error (.io path fault)
  /-- A term that is not in the index has no page, whatever is on the disk. -/
  unlisted : ∀ term, (s.run ops).2.stlIndex.1.lookup term = none →
    ((s.run ops).2.visit (.stl term)).1 = .ok (.notFound term)

/-- **A browser takes three snapshots of the disk.** Whether manual pages go through the formatter is settled when the
browser is created. The index is read at most once: from the disk as it is when the index is needed first; it is kept
from then on, whatever it is, and a browser that was given an index reads none. The page of a term is read each time. -/
theorem snapshots_of_run (config : Config) (d : Disk) (given : Option Stl.Index) (navigation : Navigation)
    (v : Viewport ω) (w : World) (ops : List (Operation ω)) :
    Snapshots config d given (beginning config d given navigation v w) ops := by
  have hsettings := run_settings (beginning config d given navigation v w) ops
  have hindex := run_index (beginning config d given navigation v w) ops
  have hreadings := run_readings (beginning config d given navigation v w) ops
  refine
    { formatter := hsettings.2
      commands := ?commands
      index := ?index
      readings := ?readings
      missing := ?missing
      unreadable := ?unreadable
      loaded := ?loaded
      kept := ?kept
      own := ?own
      elsewhere := ?elsewhere
      page := fun _ _ h => visit_listed h
      unlisted := fun _ h => visit_unlisted h }
  case commands =>
    intro page sections
    rw [visit_calls, commands, hsettings.2]
    rfl
  case index =>
    rintro rfl
    exact hindex.trans Option.none_or
  case readings =>
    rintro rfl
    exact hreadings
  case missing =>
    rintro rfl d' hneed hroot
    rw [← Stl.Index.build_of_no_root hroot]
    exact hasRead_build rfl hneed
  case unreadable =>
    rintro rfl d' hneed hroot fault hread
    rw [← Stl.Index.build_of_fault hroot hread]
    exact hasRead_build rfl hneed
  case loaded =>
    rintro rfl d' hneed hroot bytes hread
    rw [← Stl.Index.build_of_read hroot hread]
    exact hasRead_build rfl hneed
  case kept =>
    rintro rfl d' hneed
    rw [hneed] at hindex
    exact stlIndex_of_some hindex
  case own =>
    rintro i rfl
    exact ⟨stlIndex_of_some hindex, hreadings⟩
  case elsewhere =>
    rintro i rfl root file
    exact run_elsewhere root file rfl ops

end Session

end DocViewer
