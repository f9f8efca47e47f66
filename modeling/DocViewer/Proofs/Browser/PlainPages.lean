import DocViewer.Gzip.Member
import DocViewer.Output.Sink
import DocViewer.Proofs.Browser.Visiting
import DocViewer.Proofs.Html.Escaping
import DocViewer.Proofs.Text.Overstrike
import DocViewer.Proofs.Text.Spelling

/-!
# Manual pages that are shown as plain text

Without a formatter, a manual page is what `man` prints, between `<pre>` and `</pre>`. What stands between has no markup
and tells all of the text (`plainPage_eq`), and the page has no title (`title?_plainPage`), whatever is printed.
`plain_page_inert` says this of the pages that a browser shows.
-/

namespace DocViewer

open Writer World Html

/-! ## Plain pages -/

/-- No title element is in a page without tags but `<pre>` and `</pre>`. -/
theorem rawTitle?_preformatted {e : Text} (h : '<' ∉ e) :
    rawTitle? ("<pre>".toList ++ e ++ "</pre>".toList) = none := by
  have hstarts : Starts '<' (dropFold? "<title>".toList) := (heads_dropFold? _).starts rfl rfl
  have hfront : Clear (dropFold? "<title>".toList) ("<pre>".toList ++ e) ("</pre>".toList ++ []) :=
    clear_append.mpr ⟨⟨rfl, hstarts.clear (by decide) _⟩, hstarts.clear h _⟩
  have hclear := clear_append.mpr ⟨hfront, ⟨rfl, hstarts.clear (by decide) []⟩⟩
  rw [rawTitle?, splitFirst?_eq_none hclear rfl]
  rfl

/-- A plain page has no title. -/
theorem title?_plainPage (text : Text) : title? (ManPages.plainPage text) = none := by
  have hraw : rawTitle? (ManPages.plainPage text) = none := rawTitle?_preformatted (escaped_escape _).no_open
  rw [title?, hraw, Option.bind_none]

theorem backspace_not_mem_escape {t : Text} (h : backspace ∉ t) : backspace ∉ escape t := by
  intro hmem
  obtain hmem | ⟨e, he, hmem⟩ := mem_escape hmem
  · exact h hmem
  · have hall : ∀ e ∈ entities, backspace ∉ e.1 := by decide
    exact hall e he hmem

/-- Plain pages tell the texts apart that are shown on them. -/
theorem stripOverstrike_of_plainPage {text text' : Text} (h : ManPages.plainPage text = ManPages.plainPage text') :
    stripOverstrike text = stripOverstrike text' := by
  have hwritten : "<pre>".toList ++ escape _ = "<pre>".toList ++ escape _ := List.append_cancel_right h
  exact escape_injective (List.append_cancel_left hwritten)

/-- Without a formatter, the page is what `man` prints, if it starts. -/
theorem ManPages.page_of_printed {m : ManPages} {sections page : Text} {w : World} {captured : Captured}
    (hplain : m.formatter = none)
    (hstarts : (w.tools w.calls w.disk (m.printCommand sections page)).1 = .ok captured) :
    (m.page sections page w).1 = .ok (plainPage (decodeLossy captured.stdout)) := by
  rw [(page_spec m sections page w).1, shown, hplain]
  simp only [printed, reply, hstarts, Except.map, Captured.text]

/-! ## What the browser shows -/

namespace Session

variable {ω : Type} [Writer ω]

/-- A page that is there gives the window its title, whether or not it can be written. -/
theorem title_present (s : Session ω) (page : Text) : (s.present (.ok page)).2.viewport.title = title? page := by
  have h := title_showPage s.viewport page
  rw [present]
  split
  · rename_i hs
    rwa [hs] at h
  · rename_i hs
    rwa [hs] at h

/-- A visit of a manual page that is there gives the window the title of the page. -/
theorem title_visit_man {s : Session ω} {page sections html : Text}
    (h : (s.browser.man.page sections page s.world).1 = .ok html) :
    (s.visit (.man page sections)).2.viewport.title = title? html := by
  -- one more record is in the journal when the page is looked for
  have hjournal : ∀ journal, (s.browser.man.page sections page { s.world with journal }).1 = .ok html := by
    intro journal
    rw [(ManPages.page_spec _ _ _ _).1] at h ⊢
    exact h
  simp only [visit, openMan, log, hjournal]
  exact title_present _ _

/-- A visit that shows a manual page writes that page. -/
theorem held_visit_man {s : Session ω} {page sections html : Text}
    (h : (s.browser.man.page sections page s.world).1 = .ok html)
    (hshown : (s.visit (.man page sections)).1 = .ok .shown) :
    held (s.visit (.man page sections)).2.viewport.sink = held s.viewport.sink ++ encode html := by
  have hannounced := visit_announced s (.man page sections)
  rw [hshown] at hannounced
  obtain ⟨html', hpage, hheld, -⟩ := hannounced
  rw [pageOf, h] at hpage
  cases hpage
  exact hheld

/-- **Plain pages are inert.** Without a formatter, the page that is shown when `man` starts is what it prints between
`<pre>` and `</pre>`, where no tag starts or ends, no backspace is left and every ampersand starts an entity; reading
the entities gives the whole text with its overstrikes taken out. So pages that are the same were printed as the same
text, and the page has no title and gives none to the window, whatever is printed. -/
theorem plain_page_inert (s : Session ω) (page sections : Text) (captured : Captured)
    (hplain : s.browser.man.formatter = none)
    (hstarts : (s.world.tools s.world.calls s.world.disk (s.browser.man.printCommand sections page)).1 =
      .ok captured) :
    (∃ e, (s.browser.man.page sections page s.world).1 = .ok ("<pre>".toList ++ e ++ "</pre>".toList) ∧
      Escaped e ∧ backspace ∉ e ∧ unescape e = stripOverstrike (decodeLossy captured.stdout) ∧
      title? ("<pre>".toList ++ e ++ "</pre>".toList) = none ∧
      ((s.visit (.man page sections)).1 = .ok .shown → held (s.visit (.man page sections)).2.viewport.sink =
        held s.viewport.sink ++ encode ("<pre>".toList ++ e ++ "</pre>".toList))) ∧
    (s.visit (.man page sections)).2.viewport.windowTitle = appName ∧
    ∀ (s' : Session ω) (page' sections' : Text) (captured' : Captured), s'.browser.man.formatter = none →
      (s'.world.tools s'.world.calls s'.world.disk (s'.browser.man.printCommand sections' page')).1 = .ok captured' →
      (s'.browser.man.page sections' page' s'.world).1 = (s.browser.man.page sections page s.world).1 →
      stripOverstrike (decodeLossy captured'.stdout) = stripOverstrike (decodeLossy captured.stdout) := by
  have hpage := ManPages.page_of_printed hplain hstarts
  refine ⟨⟨escape (stripOverstrike (decodeLossy captured.stdout)), hpage, escaped_escape _,
    backspace_not_mem_escape (backspace_not_mem_stripOverstrike _), unescape_escape _, title?_plainPage _,
    held_visit_man hpage⟩, ?_, ?_⟩
  · rw [Viewport.windowTitle, title_visit_man hpage, title?_plainPage]
  · intro s' page' sections' captured' hplain' hstarts' hsame
    rw [hpage, ManPages.page_of_printed hplain' hstarts', Except.ok.injEq] at hsame
    exact stripOverstrike_of_plainPage hsame

/-- A browser without a formatter, where every program prints the same. -/
def printing (text : Text) : Session Sink where
  browser := ⟨{}, ⟨"man".toList, none⟩, none, .new, .new⟩
  viewport := .new Sink.unlimited
  world :=
    { tools := fun _ d _ => (.ok { stdout := encode text }, d), fetcher := fun _ _ => .refused []
      inflate := Gzip.contents, disk := .empty [] }

/-- Markup that is printed does not become a title, and a letter that is struck twice is read once. -/
theorem plain_page_inert_markup :
    (printing "<title>x\x08x".toList).browser.man.formatter = none ∧
    (∃ e, ((printing "<title>x\x08x".toList).browser.man.page "1".toList "a".toList
        (printing "<title>x\x08x".toList).world).1 = .ok ("<pre>".toList ++ e ++ "</pre>".toList) ∧
      unescape e = "<title>x".toList) ∧
    ((printing "<title>x\x08x".toList).visit (.man "a".toList "1".toList)).2.viewport.windowTitle = appName := by
  obtain ⟨⟨e, hpage, -, -, htext, -⟩, htitle, -⟩ := plain_page_inert (printing "<title>x\x08x".toList)
    "a".toList "1".toList { stdout := encode "<title>x\x08x".toList } rfl rfl
  exact ⟨rfl, ⟨e, hpage, htext.trans (by rw [decodeLossy_encode]; decide)⟩, htitle⟩

end Session

end DocViewer
