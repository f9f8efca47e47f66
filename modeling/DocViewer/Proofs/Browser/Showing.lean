import DocViewer.Proofs.Browser.Runs

/-!
# What a visit leaves

- A visit of a target that has a page shows that page (`visit_shows`), and one of a target whose page is lost fails as
  looking for the page does (`visit_lost`).
- A visit of a manual page runs the commands for that page, and any other visit runs none (`visit_calls`).
- The browser after a visit has the settings it had (`visit_settings`), and an index only if it had one or needs one
  (`visit_index`). So has the browser after a run (`run_settings`).
-/

namespace DocViewer

open World

/-- The index of the library is needed to show the target. -/
def Target.needsIndex : Target → Bool
  | .stl _ => true
  | _ => false

namespace Session

variable {ω : Type}

/-- The index is the one that the browser has, or the one on the disk. -/
theorem stlIndex_fst (s : Session ω) : s.stlIndex.1 =
    s.browser.index.getD (Stl.Index.build s.browser.config.stlRoot s.browser.config.stlIndex s.world.disk) := by
  unfold stlIndex
  split <;> rename_i h <;> rw [h] <;> rfl

theorem stlIndex_browser (s : Session ω) : s.stlIndex.2.browser = { s.browser with index := some s.stlIndex.1 } := by
  unfold stlIndex
  split
  · rename_i h
    rw [← h]
  · rfl

/-- An index that the browser has is used as it is. -/
theorem stlIndex_of_some {s : Session ω} {i : Stl.Index} (h : s.browser.index = some i) : s.stlIndex = (i, s) := by
  rw [stlIndex, h]

/-- The session with the record of what is to be shown, which a visit begins with. -/
def noting (s : Session ω) (target : Target) : Session ω :=
  { s with world := s.world.log .debug "gman::dispatch" "open" [("target", .shown (Browser.describe target))] }

theorem stlIndex_noting (s : Session ω) (target : Target) : (s.noting target).stlIndex.1 = s.stlIndex.1 := by
  rw [stlIndex_fst, stlIndex_fst]
  rfl

theorem pageOf_noting (s : Session ω) (target : Target) : (s.noting target).pageOf target = s.pageOf target :=
  pageOf_journal s _ target

variable [Writer ω]

/-! ## Showing a page -/

/-- The page is written to the viewport, and the result tells whether that went well. -/
def Shows (s : Session ω) (page : Text) (p : Except Error Outcome × Session ω) : Prop :=
  p.2.viewport = (s.viewport.showPage page).2 ∧
    p.1 = ((s.viewport.showPage page).1.map fun _ => Outcome.shown).mapError Error.stream

theorem present_shows (s : Session ω) (page : Text) : s.Shows page (s.present (.ok page)) := by
  rw [Shows, present]
  cases s.viewport.showPage page with
  | mk result v =>
    cases result with
    | ok _ => exact ⟨rfl, rfl⟩
    | error fault => exact ⟨rfl, rfl⟩

variable {s : Session ω}

/-- What was found is the page of the target, or the reason why it is lost. -/
theorem eq_of_map_some {found found' : Except Error Text} (h : found.map some = found'.map some) : found = found' := by
  cases found with
  | error e =>
    cases found' with
    | error e' => cases h; rfl
    | ok page => cases h
  | ok page =>
    cases found' with
    | error e' => cases h
    | ok page' => cases h; rfl

theorem openStl_present {term : Text} {found : Except Error Text} (h : s.pageOf (.stl term) = found.map some) :
    s.openStl term = s.stlIndex.2.present found := by
  rw [pageOf, ← (stlIndex_frame s).2.2.disk] at h
  cases found with
  | error e =>
    have hlost : s.stlIndex.1.page term s.stlIndex.2.world.disk = .error e := h
    simp only [openStl, hlost]
  | ok page =>
    have hfound : s.stlIndex.1.page term s.stlIndex.2.world.disk = .ok (some page) := h
    simp only [openStl, hfound]

/-- A visit of a target that the viewer looks for itself presents what it has found, on the viewport as it is. -/
theorem visit_present {target : Target} (found : Except Error Text) (h : s.pageOf target = found.map some) :
    ∃ t : Session ω, s.visit target = t.present found ∧ t.viewport = s.viewport := by
  have hnoted := (pageOf_noting s target).trans h
  cases target with
  | man page sections => exact ⟨_, congrArg (present _) (eq_of_map_some hnoted), rfl⟩
  | stl term => exact ⟨_, openStl_present hnoted, (stlIndex_frame _).2.1⟩
  | file path => exact ⟨_, congrArg (present _) (eq_of_map_some hnoted), rfl⟩
  | web | malformed => cases found <;> cases h

/-- A visit of a target that has a page shows that page. -/
theorem visit_shows {target : Target} {page : Text} (h : s.pageOf target = .ok (some page)) :
    s.Shows page (s.visit target) := by
  obtain ⟨t, hvisit, hview⟩ := visit_present (.ok page) h
  have hshows := present_shows t page
  rwa [Shows, hview, ← hvisit] at hshows

/-- A visit of a target whose page is lost fails in the same way, and leaves the viewport as it is. -/
theorem visit_lost {target : Target} {e : Error} (h : s.pageOf target = .error e) :
    (s.visit target).1 = .error e ∧ (s.visit target).2.viewport = s.viewport := by
  obtain ⟨t, hvisit, hview⟩ := visit_present (.error e) h
  rw [hvisit]
  exact ⟨rfl, hview⟩

/-! ## The browser -/

theorem present_browser (s : Session ω) (html : Except Error Text) : (s.present html).2.browser = s.browser := by
  unfold present
  split
  · rfl
  · split <;> rfl

theorem openStl_browser (s : Session ω) (term : Text) : (s.openStl term).2.browser = s.stlIndex.2.browser := by
  simp only [openStl]
  split
  · exact present_browser _ _
  · exact present_browser _ _
  · rfl

theorem openWeb_browser (s : Session ω) (url : Text) : ∃ navigation,
    (s.openWeb url).2.browser = { s.browser with navigation } := by
  simp only [openWeb]
  split
  · exact ⟨_, rfl⟩
  · exact ⟨_, rfl⟩

/-- The settings of a browser stay, and so does its hint. -/
theorem visit_settings (s : Session ω) (target : Target) :
    (s.visit target).2.browser.config = s.browser.config ∧ (s.visit target).2.browser.man = s.browser.man ∧
      (s.visit target).2.browser.hint = s.browser.hint := by
  have hsame : ∀ {b : Browser}, b = s.browser → b.config = s.browser.config ∧ b.man = s.browser.man ∧
      b.hint = s.browser.hint := by
    rintro b rfl
    exact ⟨rfl, rfl, rfl⟩
  cases target with
  | man page sections => exact hsame (present_browser _ _)
  | stl term =>
    have hstill := (stlIndex_frame (s.noting (.stl term))).1
    rw [visit, openStl_browser]
    exact ⟨hstill.config, hstill.man, hstill.hint⟩
  | file path => exact hsame (present_browser _ _)
  | web url =>
    obtain ⟨_, h⟩ := openWeb_browser (s.noting (.web url)) url
    rw [visit, ← noting, h]
    exact ⟨rfl, rfl, rfl⟩
  | malformed input => exact hsame rfl

/-- A browser has an index after a visit if it had one, or if the visit needs one. -/
theorem visit_index (s : Session ω) (target : Target) : (s.visit target).2.browser.index =
    if target.needsIndex then some s.stlIndex.1 else s.browser.index := by
  cases target with
  | man page sections => exact congrArg Browser.index (present_browser _ _)
  | stl term =>
    rw [visit, openStl_browser, stlIndex_browser, stlIndex_fst, stlIndex_fst]
    rfl
  | file path => exact congrArg Browser.index (present_browser _ _)
  | web url =>
    obtain ⟨_, h⟩ := openWeb_browser (s.noting (.web url)) url
    rw [visit, ← noting, h]
    rfl
  | malformed input => rfl

/-! ## Commands -/

/-- The commands that are run to show a target, the first one first. -/
def commands (s : Session ω) : Target → List Command
  | .man page sections => s.browser.man.commands sections page s.world
  | _ => []

theorem calls_foldl_ran (w : World) (cs : List Command) : (cs.foldl ran w).calls = cs.reverse ++ w.calls := by
  induction cs generalizing w with
  | nil => rfl
  | cons c cs ih => rw [List.foldl_cons, ih, ran, List.reverse_cons, List.append_assoc, List.singleton_append]

/-- A visit runs the commands for its target, and no other. -/
theorem visit_calls (s : Session ω) (target : Target) :
    (s.visit target).2.world.calls = (s.commands target).reverse ++ s.world.calls := by
  cases target with
  | man page sections =>
    rw [visit, openMan, present_world]
    exact (ManPages.page_spec _ _ _ _).2.calls.trans (calls_foldl_ran _ _)
  | stl term =>
    have hframe := (stlIndex_frame (s.noting (.stl term))).2.2.calls
    simp only [visit, openStl]
    split
    · rw [present_world]
      exact hframe
    · rw [present_world]
      exact hframe
    · exact hframe
  | file path => exact (congrArg World.calls (present_world _ _)).trans rfl
  | web url => exact (congrArg World.calls (openWeb_world _ _)).trans rfl
  | malformed input => rfl

/-! ## Operations and runs -/

theorem operate_settings (s : Session ω) (op : Operation ω) :
    (s.operate op).2.browser.config = s.browser.config ∧ (s.operate op).2.browser.man = s.browser.man := by
  have hvisit := fun target => (visit_settings s target)
  cases op with
  | search text => exact ⟨(hvisit _).1, (hvisit _).2.1⟩
  | follow link => exact ⟨(hvisit _).1, (hvisit _).2.1⟩
  | visit target => exact ⟨(hvisit _).1, (hvisit _).2.1⟩
  | index => exact ⟨(stlIndex_frame s).1.config, (stlIndex_frame s).1.man⟩
  | hover | disk | display => exact ⟨rfl, rfl⟩

/-- The settings of a browser stay in a run. -/
theorem run_settings (s : Session ω) (ops : List (Operation ω)) :
    (s.run ops).2.browser.config = s.browser.config ∧ (s.run ops).2.browser.man = s.browser.man := by
  induction ops generalizing s with
  | nil => exact ⟨rfl, rfl⟩
  | cons op ops ih =>
    obtain ⟨hconfig, hman⟩ := operate_settings s op
    obtain ⟨hconfig', hman'⟩ := ih (s.operate op).2
    exact ⟨hconfig'.trans hconfig, hman'.trans hman⟩

end Session

end DocViewer
