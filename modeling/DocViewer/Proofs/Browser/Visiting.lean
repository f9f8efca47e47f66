import DocViewer.Browser
import DocViewer.Proofs.Man
import DocViewer.Proofs.Output.Viewport

/-!
# What a visit does

`Session.Announced` says for every result of a visit what has happened when the visit ends with it. `visit_exact`: what
a result announces is what has happened. A visit that finds no page changes nothing the reader sees; one that shows a
page shows all of it; the browser moves when a web page has arrived as a whole, and at no other time.
-/

namespace DocViewer

open Writer World

/-- The browser is where it was, though it may have read its index. -/
structure Browser.Still (b b' : Browser) : Prop where
  config : b'.config = b.config
  man : b'.man = b.man
  navigation : b'.navigation = b.navigation
  hint : b'.hint = b.hint

theorem Browser.Still.refl (b : Browser) : Still b b := ⟨rfl, rfl, rfl, rfl⟩

/-- Only a file that cannot be read is no page. -/
theorem Disk.page_error {d : Disk} {path : Text} {e : Error} (h : d.page path = .error e) : e.unfound = true := by
  unfold Disk.page at h
  split at h
  · cases h
  · cases h
    rfl

/-- The web pages that are asked for to show a target. -/
def Target.asked : Target → List Text
  | .web url => [url]
  | _ => []

namespace Session

variable {ω : Type}

/-! ## The page of a target -/

/-- The page that a target refers to, if it refers to one that the viewer has at hand. -/
def pageOf (s : Session ω) : Target → Except Error (Option Text)
  | .man page sections => (s.browser.man.page sections page s.world).1.map some
  | .stl term => s.stlIndex.1.page term s.world.disk
  | .file path => (s.world.disk.page path).map some
  | .web _ | .malformed _ => .ok none

/-- The journal makes no difference to the page of a target. -/
theorem pageOf_journal (s : Session ω) (journal : List Log.Notice) (target : Target) :
    { s with world := { s.world with journal } }.pageOf target = s.pageOf target := by
  cases target with
  | man page sections =>
    simp only [pageOf, (ManPages.page_spec _ _ _ _).1]
    rfl
  | stl term =>
    simp only [pageOf, stlIndex]
    cases s.browser.index with
    | some index => rfl
    | none => rfl
  | file | web | malformed => rfl

/-- A page that is not found is not found for one of three reasons. -/
theorem pageOf_error {s : Session ω} {target : Target} {e : Error} (h : s.pageOf target = .error e) :
    e.unfound = true := by
  cases target with
  | man page sections =>
    simp only [pageOf, (ManPages.page_spec _ _ _ _).1] at h
    exact ManPages.shown_error (eq_error_of_map h)
  | stl term =>
    simp only [pageOf, Stl.Index.page] at h
    split at h
    · cases h
    · split at h
      · cases h
      · rename_i hd
        cases h
        exact Disk.page_error hd
  | file path => exact Disk.page_error (eq_error_of_map h)
  | web | malformed => cases h

/-! ## What has happened -/

/-- The index is read without a change of anything else but the journal. -/
theorem stlIndex_frame (s : Session ω) :
    s.browser.Still s.stlIndex.2.browser ∧ s.stlIndex.2.viewport = s.viewport ∧ Alike s.stlIndex.2.world s.world := by
  unfold stlIndex
  split
  · exact ⟨.refl _, rfl, .refl _⟩
  · exact ⟨⟨rfl, rfl, rfl, rfl⟩, rfl, log_alike _ _ _ _ _⟩

variable [Writer ω]

/-- What has happened when a visit of `target` has led from `s` to `s'` with a result. -/
def Announced (s : Session ω) (target : Target) (s' : Session ω) : Except Error Outcome → Prop
  | .ok .ignored =>
    (∃ input, target = .malformed input) ∧ s'.viewport = s.viewport ∧ s.browser.Still s'.browser ∧
      Alike s'.world s.world
  | .ok (.notFound term) =>
    target = .stl term ∧ s.pageOf target = .ok none ∧ s'.viewport = s.viewport ∧ s.browser.Still s'.browser ∧
      Alike s'.world s.world
  | .ok .shown =>
    ∃ page, s.pageOf target = .ok (some page) ∧ held s'.viewport.sink = held s.viewport.sink ++ encode page ∧
      flushes s'.viewport.sink = flushes s.viewport.sink + 1 ∧ s'.viewport.title = Html.title? page ∧
      s.browser.Still s'.browser
  | .ok (.streamed url n) =>
    target = .web url ∧ ∃ r, s.world.fetcher s.world.requests url = .body r ∧ r.ends = true ∧
      held s'.viewport.sink = held s.viewport.sink ++ r.body ∧ n = r.body.length ∧
      flushes s'.viewport.sink = flushes s.viewport.sink + 1 ∧ s'.viewport.title = headTitle r.body ∧
      s'.browser.navigation.current = some url ∧ s'.browser.hint = s.browser.hint
  | .error (.fetch url reason) =>
    target = .web url ∧ s.world.fetcher s.world.requests url = .refused reason ∧
      s'.viewport.sink = s.viewport.sink ∧ s.browser.Still s'.browser
  | .error (.stream fault) =>
    ((∃ page taken, s.pageOf target = .ok (some page) ∧ (s.viewport.showPage page).1 = .error fault ∧
        taken <+: encode page ∧ held s'.viewport.sink = held s.viewport.sink ++ taken) ∨
      ∃ url r m taken, target = .web url ∧ s.world.fetcher s.world.requests url = .body r ∧
        (Copying.moment r s.viewport.stream m).result? = some (.error fault) ∧
        taken <+: (Copying.moment r s.viewport.stream m).reads.flatten ∧
        held s'.viewport.sink = held s.viewport.sink ++ taken) ∧ s.browser.Still s'.browser
  | .error e => s.pageOf target = .error e ∧ s'.viewport = s.viewport ∧ s.browser.Still s'.browser

/-! ## Every visit does what it announces -/

/-- Presenting what was found announces what has happened. -/
theorem present_announced {s t : Session ω} {target : Target} {html : Except Error Text}
    (hpage : s.pageOf target = html.map some) (hview : t.viewport = s.viewport) (hstill : s.browser.Still t.browser) :
    Announced s target (t.present html).2 (t.present html).1 := by
  cases html with
  | error e =>
    have hunfound := pageOf_error hpage
    cases e with
    | spawn | io | decompress => exact ⟨hpage, hview, hstill⟩
    | fetch | stream => cases hunfound
  | ok page =>
    rw [present]
    cases hs : t.viewport.showPage page with
    | mk result v =>
      have htitle := title_showPage t.viewport page
      rw [hview] at hs htitle
      rw [hs] at htitle
      cases result with
      | ok _ =>
        obtain ⟨hheld, hflushes⟩ := showPage_ok hs
        exact ⟨page, hpage, hheld, hflushes, htitle, hstill⟩
      | error fault =>
        obtain ⟨taken, hprefix, hheld⟩ := showPage_error hs
        exact ⟨.inl ⟨page, taken, hpage, by rw [hs], hprefix, hheld⟩, hstill⟩

theorem openMan_announced (s : Session ω) (page sections : Text) :
    Announced s (.man page sections) (s.openMan page sections).2 (s.openMan page sections).1 :=
  present_announced rfl rfl (.refl _)

theorem openFile_announced (s : Session ω) (path : Text) :
    Announced s (.file path) (s.openFile path).2 (s.openFile path).1 :=
  present_announced rfl rfl (.refl _)

theorem openStl_announced (s : Session ω) (term : Text) :
    Announced s (.stl term) (s.openStl term).2 (s.openStl term).1 := by
  obtain ⟨hstill, hview, halike⟩ := stlIndex_frame s
  have hpage : s.pageOf (.stl term) = s.stlIndex.1.page term s.stlIndex.2.world.disk := by rw [halike.disk, pageOf]
  simp only [openStl]
  cases hp : s.stlIndex.1.page term s.stlIndex.2.world.disk with
  | error e => exact present_announced (hpage.trans hp) hview hstill
  | ok found =>
    cases found with
    | some html => exact present_announced (hpage.trans hp) hview hstill
    | none =>
      exact ⟨rfl, hpage.trans hp, hview, hstill, (log_alike _ _ _ _ _).trans halike⟩

theorem openWeb_announced (s : Session ω) (url : Text) :
    Announced s (.web url) (s.openWeb url).2 (s.openWeb url).1 := by
  rw [openWeb]
  cases hf : s.world.fetch url s.viewport.stream with
  | mk result rest =>
    obtain ⟨page, world⟩ := rest
    cases result with
    | error e =>
      obtain ⟨reason, rfl, hrefused, rfl⟩ | ⟨r, fault, rfl, hbody, hcopy⟩ := fetch_error hf
      · exact ⟨rfl, hrefused, rfl, .refl _⟩
      · obtain ⟨m, hresult, hsink, _⟩ := copyChunked_error hcopy
        obtain ⟨taken, hprefix, hheld⟩ := (Copying.sound_moment r s.viewport.stream m).taken
        rw [hsink] at hheld
        exact ⟨.inr ⟨url, r, m, taken, rfl, hbody, hresult, hprefix, hheld⟩, .refl _⟩
    | ok n =>
      obtain ⟨r, hbody, hcopy⟩ := fetch_ok hf
      obtain ⟨hheld, hn, hflushes, hends⟩ := copyChunked_ok hcopy
      obtain ⟨calls, hcalls⟩ := Copying.copyChunked_calls r s.viewport.stream
      have hpage : page = after s.viewport.stream calls := by rw [← hcalls, hcopy]
      refine ⟨rfl, r, hbody, hends, hheld, hn, hflushes, ?_, rfl, rfl⟩
      rw [hpage] at hheld ⊢
      exact title_after hheld

/-- The journal makes no difference to what is announced. -/
theorem Announced.of_journal {s s' : Session ω} {journal : List Log.Notice} {target : Target}
    {result : Except Error Outcome} (h : Announced { s with world := { s.world with journal } } target s' result) :
    Announced s target s' result := by
  have hpage := pageOf_journal s journal target
  have halike : ∀ {w : World}, Alike w { s.world with journal } → Alike w s.world := fun h =>
    h.trans ⟨rfl, rfl, rfl, rfl, rfl, rfl⟩
  cases result with
  | ok outcome =>
    cases outcome with
    | shown =>
      obtain ⟨page, hp, h⟩ := h
      exact ⟨page, hpage.symm.trans hp, h⟩
    | streamed url n => exact h
    | ignored =>
      obtain ⟨htarget, hview, hstill, h⟩ := h
      exact ⟨htarget, hview, hstill, halike h⟩
    | notFound term =>
      obtain ⟨htarget, hp, hview, hstill, h⟩ := h
      exact ⟨htarget, hpage.symm.trans hp, hview, hstill, halike h⟩
  | error e =>
    cases e with
    | fetch url reason => exact h
    | stream fault =>
      obtain ⟨⟨page, taken, hp, h⟩ | h, hstill⟩ := h
      · exact ⟨.inl ⟨page, taken, hpage.symm.trans hp, h⟩, hstill⟩
      · exact ⟨.inr h, hstill⟩
    | spawn | io | decompress =>
      obtain ⟨hp, h⟩ := h
      exact ⟨hpage.symm.trans hp, h⟩

/-- What the result of a visit announces is what has happened. -/
theorem visit_announced (s : Session ω) (target : Target) :
    Announced s target (s.visit target).2 (s.visit target).1 := by
  cases target with
  | man page sections => exact (openMan_announced _ page sections).of_journal
  | stl term => exact (openStl_announced _ term).of_journal
  | file path => exact (openFile_announced _ path).of_journal
  | web url => exact (openWeb_announced _ url).of_journal
  | malformed input => exact ⟨⟨input, rfl⟩, rfl, .refl _, rfl, rfl, rfl, rfl, rfl, rfl⟩

/-! ## What a visit asks for -/

theorem present_world (s : Session ω) (html : Except Error Text) : (s.present html).2.world = s.world := by
  unfold present
  split
  · rfl
  · split <;> rfl

theorem openMan_offline (s : Session ω) (page sections : Text) :
    Offline s.world (s.openMan page sections).2.world := by
  rw [openMan, present_world]
  exact ManPages.page_offline _ _ _ _

theorem openStl_offline (s : Session ω) (term : Text) : Offline s.world (s.openStl term).2.world := by
  have hindex : Offline s.world s.stlIndex.2.world := (stlIndex_frame s).2.2.offline
  simp only [openStl]
  split
  · rwa [present_world]
  · rwa [present_world]
  · exact hindex.trans (log_alike _ _ _ _ _).offline

theorem openFile_offline (s : Session ω) (path : Text) : Offline s.world (s.openFile path).2.world := by
  rw [openFile, present_world]
  exact (Alike.refl _).offline

theorem openWeb_world (s : Session ω) (url : Text) :
    (s.openWeb url).2.world = { s.world with requests := url :: s.world.requests } := by
  simp only [openWeb]
  split <;> rw [fetch_world]

/-- A visit asks for the web page that its target is, and for no other. -/
theorem visit_requests (s : Session ω) (target : Target) :
    (s.visit target).2.world.requests = target.asked ++ s.world.requests := by
  cases target with
  | man page sections => exact (openMan_offline _ page sections).requests
  | stl term => exact (openStl_offline _ term).requests
  | file path => exact (openFile_offline _ path).requests
  | web url => exact congrArg World.requests (openWeb_world _ url)
  | malformed input => rfl

/-- **A visit does what its result announces**, whatever the target is, and however the programs, the disk, the web
servers and the writer behave; and it asks for the web page that its target is, and for no other. -/
theorem visit_exact (s : Session ω) (target : Target) :
    Announced s target (s.visit target).2 (s.visit target).1 ∧
      (s.visit target).2.world.requests = target.asked ++ s.world.requests :=
  ⟨visit_announced s target, visit_requests s target⟩

end Session

end DocViewer
