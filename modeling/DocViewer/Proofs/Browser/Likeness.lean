import DocViewer.Proofs.Browser.Showing

/-!
# Sessions that are the same to the reader

What the reader sees hangs neither on the journal, nor on how programs end, nor on what they write to the error output.
Two sessions that are the same but for these (`Session.Same`) give the same results and stay the same: there is one
lemma for each part of the browser, from them one for an operation (`Same.operate`), and by induction one for a run
(`Same.run`).
-/

namespace DocViewer

open World

/-- What a command prints and what it leaves on the disk. -/
def Tools.effect (tools : Tools) (calls : List Command) (d : Disk) (c : Command) : Except Fault Bytes × Disk :=
  ((tools calls d c).1.map Captured.stdout, (tools calls d c).2)

/-! ## Worlds -/

namespace World

/-- The worlds are the same but for their journals, for how programs end, and for the error output. -/
structure Same (w w' : World) : Prop where
  effect : w.tools.effect = w'.tools.effect
  fetcher : w.fetcher = w'.fetcher
  inflate : w.inflate = w'.inflate
  disk : w.disk = w'.disk
  calls : w.calls = w'.calls
  requests : w.requests = w'.requests

variable {w w' w'' : World}

theorem Alike.same (h : Alike w w') : Same w w' :=
  ⟨congrArg Tools.effect h.tools, h.fetcher, h.inflate, h.disk, h.calls, h.requests⟩

theorem Same.symm (h : Same w w') : Same w' w :=
  ⟨h.effect.symm, h.fetcher.symm, h.inflate.symm, h.disk.symm, h.calls.symm, h.requests.symm⟩

theorem Same.trans (h : Same w w') (h' : Same w' w'') : Same w w'' :=
  ⟨h.effect.trans h'.effect, h.fetcher.trans h'.fetcher, h.inflate.trans h'.inflate, h.disk.trans h'.disk,
    h.calls.trans h'.calls, h.requests.trans h'.requests⟩

/-- What is printed is a part of the effect. -/
theorem printed_eq (w : World) (c : Command) :
    w.printed c = match (w.tools.effect w.calls w.disk c).1 with
      | .error fault => .error (.spawn c.program fault)
      | .ok output => .ok (decodeLossy output) := by
  rw [printed, reply, Tools.effect]
  cases (w.tools w.calls w.disk c).1 with
  | error fault => rfl
  | ok captured => rfl

theorem Same.printed (h : Same w w') (c : Command) : w.printed c = w'.printed c := by
  rw [printed_eq, printed_eq, h.effect, h.calls, h.disk]

theorem Same.ran (h : Same w w') (c : Command) : Same (w.ran c) (w'.ran c) := by
  have hdisk : (w.tools.effect w.calls w.disk c).2 = (w'.tools.effect w'.calls w'.disk c).2 := by
    rw [h.effect, h.calls, h.disk]
  exact ⟨h.effect, h.fetcher, h.inflate, hdisk, congrArg (c :: ·) h.calls, h.requests⟩

theorem Same.foldl_ran (h : Same w w') (cs : List Command) : Same (cs.foldl World.ran w) (cs.foldl World.ran w') := by
  induction cs generalizing w w' with
  | nil => exact h
  | cons c cs ih => exact ih (h.ran c)

/-- Different records make no difference. -/
theorem Same.log (h : Same w w') (level level' : Log.Level) (source source' message message' : String)
    (fields fields' : List (String × Log.Value)) :
    Same (w.log level source message fields) (w'.log level' source' message' fields') :=
  ⟨h.effect, h.fetcher, h.inflate, h.disk, h.calls, h.requests⟩

theorem Same.fetch {ω : Type} [Writer ω] (h : Same w w') (url : Text) (sink : ω) :
    (w.fetch url sink).1 = (w'.fetch url sink).1 ∧ (w.fetch url sink).2.1 = (w'.fetch url sink).2.1 := by
  simp only [World.fetch, h.fetcher, h.requests]
  split
  · exact ⟨rfl, rfl⟩
  · split
    · exact ⟨rfl, rfl⟩
    · exact ⟨rfl, rfl⟩

end World

/-! ## Manual pages -/

namespace ManPages

variable {w w' : World}

theorem located_congr (h : Same w w') (m : ManPages) (sections page : Text) :
    m.located sections page w = m.located sections page w' := by
  rw [located, located, h.printed, h.inflate, (h.ran _).disk]

theorem shown_congr (h : Same w w') (m : ManPages) (sections page : Text) :
    m.shown sections page w = m.shown sections page w' := by
  unfold shown
  simp only [h.printed, located_congr h, (h.ran _).printed]

theorem commands_congr (h : Same w w') (m : ManPages) (sections page : Text) :
    m.commands sections page w = m.commands sections page w' := by
  unfold commands
  rw [located_congr h]

/-- The same page, with the same commands. -/
theorem page_congr (h : Same w w') (m : ManPages) (sections page : Text) :
    (m.page sections page w).1 = (m.page sections page w').1 ∧
      Same (m.page sections page w).2 (m.page sections page w').2 := by
  obtain ⟨hpage, hworld⟩ := page_spec m sections page w
  obtain ⟨hpage', hworld'⟩ := page_spec m sections page w'
  have hran := h.foldl_ran (m.commands sections page w)
  rw [commands_congr h] at hran hworld
  exact ⟨by rw [hpage, hpage', shown_congr h], hworld.same.trans (hran.trans hworld'.same.symm)⟩

end ManPages

/-! ## Sessions -/

namespace Session

variable {ω : Type}

/-- The sessions are the same but for what their worlds may differ in. -/
structure Same (s s' : Session ω) : Prop where
  browser : s.browser = s'.browser
  viewport : s.viewport = s'.viewport
  world : World.Same s.world s'.world

variable {s s' s'' : Session ω}

theorem Same.refl (s : Session ω) : Same s s := ⟨rfl, rfl, (Alike.refl s.world).same⟩

theorem Same.trans (h : Same s s') (h' : Same s' s'') : Same s s'' :=
  ⟨h.browser.trans h'.browser, h.viewport.trans h'.viewport, h.world.trans h'.world⟩

/-- The results are equal, and the sessions that they leave are the same. -/
def Parallel {α : Type} (p p' : α × Session ω) : Prop := p.1 = p'.1 ∧ Same p.2 p'.2

/-- Sessions that are the same have a browser and a viewport in common. -/
theorem Same.exists_world (h : Same s s') : ∃ w, s' = { s with world := w } ∧ World.Same s.world w := by
  obtain ⟨b, v, w⟩ := s'
  obtain ⟨rfl, rfl, hw⟩ := h
  exact ⟨w, rfl, hw⟩

theorem Same.stlIndex (h : Same s s') : Parallel s.stlIndex s'.stlIndex := by
  obtain ⟨w, rfl, hw⟩ := h.exists_world
  simp only [Session.stlIndex]
  split
  · exact ⟨rfl, rfl, rfl, hw⟩
  · simp only [hw.disk]
    exact ⟨rfl, rfl, rfl, hw.log _ _ _ _ _ _ _ _⟩

variable [Writer ω]

theorem Same.present (h : Same s s') (html : Except Error Text) : Parallel (s.present html) (s'.present html) := by
  obtain ⟨w, rfl, hw⟩ := h.exists_world
  cases html with
  | error e => exact ⟨rfl, rfl, rfl, hw⟩
  | ok page =>
    simp only [Session.present]
    split
    · exact ⟨rfl, rfl, rfl, hw⟩
    · exact ⟨rfl, rfl, rfl, hw⟩

theorem Same.openMan (h : Same s s') (page sections : Text) :
    Parallel (s.openMan page sections) (s'.openMan page sections) := by
  obtain ⟨w, rfl, hw⟩ := h.exists_world
  obtain ⟨hpage, hworld⟩ := ManPages.page_congr hw s.browser.man sections page
  have hsame : Same { s with world := (s.browser.man.page sections page s.world).2 }
      { s with world := (s.browser.man.page sections page w).2 } := ⟨rfl, rfl, hworld⟩
  simp only [Session.openMan, hpage]
  exact hsame.present _

theorem Same.openStl (h : Same s s') (term : Text) : Parallel (s.openStl term) (s'.openStl term) := by
  obtain ⟨hindex, hsame⟩ := h.stlIndex
  simp only [Session.openStl, hindex, hsame.world.disk]
  split
  · exact hsame.present _
  · exact hsame.present _
  · exact ⟨rfl, hsame.browser, hsame.viewport, hsame.world.log _ _ _ _ _ _ _ _⟩

theorem Same.openFile (h : Same s s') (path : Text) : Parallel (s.openFile path) (s'.openFile path) := by
  rw [Session.openFile, Session.openFile, h.world.disk]
  exact h.present _

theorem Same.openWeb (h : Same s s') (url : Text) : Parallel (s.openWeb url) (s'.openWeb url) := by
  obtain ⟨w, rfl, hw⟩ := h.exists_world
  obtain ⟨hresult, hpage⟩ := hw.fetch url s.viewport.stream
  have hrequested : World.Same { s.world with requests := url :: s.world.requests }
      { w with requests := url :: w.requests } :=
    ⟨hw.effect, hw.fetcher, hw.inflate, hw.disk, hw.calls, congrArg (url :: ·) hw.requests⟩
  simp only [Session.openWeb, fetch_world, hresult, hpage]
  split
  · exact ⟨rfl, rfl, rfl, hrequested⟩
  · exact ⟨rfl, rfl, rfl, hrequested⟩

/-- A visit gives the same result and leaves the same. -/
theorem Same.visit (h : Same s s') (target : Target) : Parallel (s.visit target) (s'.visit target) := by
  have hnoted : Same (s.noting target) (s'.noting target) := ⟨h.browser, h.viewport, h.world.log _ _ _ _ _ _ _ _⟩
  cases target with
  | man page sections => exact hnoted.openMan page sections
  | stl term => exact hnoted.openStl term
  | file path => exact hnoted.openFile path
  | web url => exact hnoted.openWeb url
  | malformed input => exact ⟨rfl, h.browser, h.viewport, hnoted.world.log _ _ _ _ _ _ _ _⟩

/-! ## Operations and runs -/

/-- An operation gives the same result and leaves the same. -/
theorem Same.operate (h : Same s s') (op : Operation ω) : Parallel (s.operate op) (s'.operate op) := by
  have hvisit : ∀ target, Parallel (some (s.visit target).1, (s.visit target).2)
      (some (s'.visit target).1, (s'.visit target).2) := fun target =>
    ⟨congrArg some (h.visit target).1, (h.visit target).2⟩
  cases op with
  | search text =>
    simp only [Session.operate, Session.search, h.browser]
    exact hvisit _
  | follow link =>
    simp only [Session.operate, Session.follow, h.browser]
    exact hvisit _
  | visit target => exact hvisit target
  | hover url => exact ⟨rfl, by simp only [Session.operate, Session.hover, h.browser], h.viewport, h.world⟩
  | index => exact ⟨rfl, h.stlIndex.2⟩
  | disk d =>
    exact ⟨rfl, h.browser, h.viewport, h.world.effect, h.world.fetcher, h.world.inflate, rfl, h.world.calls,
      h.world.requests⟩
  | display v => exact ⟨rfl, h.browser, rfl, h.world⟩

/-- So does a run. -/
theorem Same.run (h : Same s s') (ops : List (Operation ω)) : Parallel (s.run ops) (s'.run ops) := by
  induction ops generalizing s s' with
  | nil => exact ⟨rfl, h⟩
  | cons op ops ih =>
    obtain ⟨hresult, hsame⟩ := h.operate op
    obtain ⟨hresults, hrest⟩ := ih hsame
    exact ⟨by rw [Session.run, Session.run, hresult, hresults], hrest⟩

end Session

end DocViewer
