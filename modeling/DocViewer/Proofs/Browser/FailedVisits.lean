import DocViewer.Gzip.Member
import DocViewer.Output.Sink
import DocViewer.Proofs.Browser.Showing

/-!
# The title after a visit that fails

The viewport takes the title of a page before it writes the page, and drops the title when a web page is asked for. So
the title that a failed visit leaves tells how far the visit came (`titleLeft`):

- a visit that finds no page leaves the title as it was;
- one that finds a page but cannot write it leaves the title of that page;
- one of a web page leaves the title of the bytes that were taken.

`title_visit_error` says so of every visit that fails, and `title_of_failed_visit` of those for which the writer has
taken nothing: such a visit can change the title, though the page on display is the one before
(`not_title_of_failed_visit`).
-/

namespace DocViewer

open Writer World

namespace Session

variable {ω : Type}

/-- The title that a failed visit leaves when the writer has taken these bytes of the page. -/
def titleLeft (s : Session ω) (target : Target) (taken : Bytes) : Option Text :=
  match s.pageOf target with
  | .error _ => s.viewport.title
  | .ok (some page) => Html.title? page
  | .ok none => headTitle taken

variable [Writer ω] {s : Session ω} {target : Target} {e : Error}

/-! ## Web pages -/

/-- A stream that was asked for a web page is where some calls have led it. -/
theorem fetch_after (w : World) (url : Text) (v : Viewport ω) :
    ∃ calls, (w.fetch url v.stream).2.1 = after v.stream calls := by
  unfold fetch
  simp only
  split
  · exact ⟨[], rfl⟩
  · rename_i r _
    obtain ⟨calls, hcalls⟩ := Copying.copyChunked_calls r v.stream
    refine ⟨calls, ?_⟩
    split
    · rename_i hcopy
      rwa [hcopy] at hcalls
    · rename_i hcopy
      rwa [hcopy] at hcalls

/-- However the request for a web page ends, the window has the title of the bytes that were taken. -/
theorem openWeb_title (s : Session ω) (url : Text) : ∃ taken,
    held (s.openWeb url).2.viewport.sink = held s.viewport.sink ++ taken ∧
      (s.openWeb url).2.viewport.title = headTitle taken := by
  obtain ⟨calls, hafter⟩ := fetch_after s.world url s.viewport
  obtain ⟨taken, hheld⟩ := held_after s.viewport.stream calls
  have htitle := title_after hheld.symm
  have hview : (s.openWeb url).2.viewport = (after s.viewport.stream calls).viewport := by
    simp only [openWeb, ← hafter]
    split <;> rfl
  rw [hview]
  exact ⟨taken, hheld.symm, htitle⟩

/-! ## Visits that fail -/

/-- The error of a visit says that no page was found if that is so. -/
theorem unfound_of_visit_error (hfailed : (s.visit target).1 = .error e) :
    e.unfound = true ↔ s.pageOf target = .error e := by
  have hannounced := visit_announced s target
  rw [hfailed] at hannounced
  refine ⟨fun hunfound => ?_, pageOf_error⟩
  cases e with
  | spawn | io | decompress => exact hannounced.1
  | fetch | stream => cases hunfound

/-- A visit that fails without a page at hand is one of a web page. -/
theorem eq_web_of_visit_error (hfailed : (s.visit target).1 = .error e) (hnone : s.pageOf target = .ok none) :
    ∃ url, target = .web url := by
  have hannounced := visit_announced s target
  have hfound := unfound_of_visit_error hfailed
  rw [hfailed] at hannounced
  rw [hnone] at hfound
  cases e with
  | fetch url => exact ⟨url, hannounced.1⟩
  | stream =>
    obtain ⟨⟨page, _, hpage, -⟩ | ⟨url, _, _, _, htarget, -⟩, -⟩ := hannounced
    · rw [hnone] at hpage
      cases hpage
    · exact ⟨url, htarget⟩
  | spawn | io | decompress => cases hfound.mp rfl

/-- The title after a visit that fails is the one before if no page was found, else that of the page, or of as much of
it as the writer has taken if it was to come from the web. -/
theorem title_visit_error (hfailed : (s.visit target).1 = .error e) : ∃ taken,
    held (s.visit target).2.viewport.sink = held s.viewport.sink ++ taken ∧
      (s.visit target).2.viewport.title = s.titleLeft target taken := by
  unfold titleLeft
  cases hpage : s.pageOf target with
  | error lost =>
    obtain ⟨-, hview⟩ := visit_lost hpage
    rw [hview]
    exact ⟨[], (List.append_nil _).symm, rfl⟩
  | ok found =>
    cases found with
    | some page =>
      obtain ⟨hview, hresult⟩ := visit_shows hpage
      have htitle := title_showPage s.viewport page
      rw [hfailed] at hresult
      rw [hview]
      cases hshown : s.viewport.showPage page with
      | mk result v =>
        rw [hshown] at hresult htitle
        cases result with
        | ok => cases hresult
        | error fault =>
          obtain ⟨taken, -, hheld⟩ := showPage_error hshown
          exact ⟨taken, hheld, htitle⟩
    | none =>
      obtain ⟨url, rfl⟩ := eq_web_of_visit_error hfailed hpage
      exact openWeb_title (s.noting (.web url)) url

/-- **The title after a visit that fails before anything is written**, whatever the target is, and however the programs,
the disk, the web servers and the writer behave: if no page was found it is the title before, if a page was found it is
that of the page, and if a web page was asked for there is none. So the title stays if the error says that no page was
found; else it stays only if the page has the same title, or if there was none when a web page was asked for. -/
theorem title_of_failed_visit (hfailed : (s.visit target).1 = .error e)
    (hnothing : held (s.visit target).2.viewport.sink = held s.viewport.sink) :
    (s.visit target).2.viewport.title = s.titleLeft target [] ∧
    ((s.visit target).2.viewport.title = s.viewport.title ↔
      e.unfound = true ∨ (∃ page, s.pageOf target = .ok (some page) ∧ Html.title? page = s.viewport.title) ∨
        (∃ url, target = .web url) ∧ s.viewport.title = none) := by
  obtain ⟨taken, hheld, htitle⟩ := title_visit_error hfailed
  rw [hnothing, List.self_eq_append_right] at hheld
  subst hheld
  refine ⟨htitle, ?_⟩
  rw [htitle, titleLeft, unfound_of_visit_error hfailed]
  cases hpage : s.pageOf target with
  | error lost =>
    have hsame : lost = e := Except.error.inj ((visit_lost hpage).1.symm.trans hfailed)
    simp [hsame]
  | ok found =>
    cases found with
    | some page =>
      have hlocal : ¬∃ url, target = .web url := by
        rintro ⟨url, rfl⟩
        cases hpage
      simp [hlocal]
    | none =>
      have hempty : headTitle [] = none := by decide
      obtain ⟨url, rfl⟩ := eq_web_of_visit_error hfailed hpage
      simp [hempty, eq_comm]

/-- A page with the title `Old` is on display, where there is no room for more; the disk has the page `/new`, and the
web is out of reach. -/
def crowded : Session Sink where
  browser := .new {} (.empty [])
  viewport := ⟨{ Sink.unlimited with room := some 0 }, some "Old".toList⟩
  world :=
    { tools := fun _ d _ => (.error .missing, d), fetcher := fun _ _ => .refused [], inflate := Gzip.contents
      disk := (Disk.empty []).put ["new".toList] (encode "<title>New</title>".toList) }

/-- The page `/new` gives its title, though nothing of it is written. -/
theorem title_of_failed_visit_crowded :
    (crowded.visit (.file "/new".toList)).1 = .error (.stream (.failed "sink full".toList)) ∧
    held (crowded.visit (.file "/new".toList)).2.viewport.sink = held crowded.viewport.sink ∧
    (crowded.visit (.file "/new".toList)).2.viewport.title = some "New".toList := by
  have hread : crowded.world.disk.read "/new".toList = .ok (encode "<title>New</title>".toList) := rfl
  have hpage : crowded.pageOf (.file "/new".toList) = .ok (some "<title>New</title>".toList) := by
    rw [pageOf, Disk.page, hread]
    simp only [decodeLossy_encode]
    rfl
  have hwrite : writeAll crowded.viewport.sink (encode "<title>New</title>".toList) =
      (.error (.failed "sink full".toList), crowded.viewport.sink) := by
    rw [writeAll]
    rfl
  obtain ⟨hview, hresult⟩ := visit_shows hpage
  simp only [Viewport.showPage, hwrite] at hview hresult
  have hfailed : (crowded.visit (.file "/new".toList)).1 = .error (.stream (.failed "sink full".toList)) := hresult
  have hnothing : held (crowded.visit (.file "/new".toList)).2.viewport.sink = held crowded.viewport.sink := by
    rw [hview]
  obtain ⟨htitle, -⟩ := title_of_failed_visit hfailed hnothing
  rw [titleLeft, hpage] at htitle
  exact ⟨hfailed, hnothing, htitle.trans (by decide)⟩

/-- A visit that fails before anything is written may change the title: a web page that is out of reach takes it
away. -/
theorem not_title_of_failed_visit : ¬∀ (s : Session Sink) target e, (s.visit target).1 = .error e →
    held (s.visit target).2.viewport.sink = held s.viewport.sink →
    (s.visit target).2.viewport.title = s.viewport.title := by
  intro h
  have hkept := h crowded (.web "http://a".toList) (.fetch "http://a".toList []) rfl rfl
  have hgone : (crowded.visit (.web "http://a".toList)).2.viewport.title = none := rfl
  rw [hgone] at hkept
  cases hkept

end Session

end DocViewer
