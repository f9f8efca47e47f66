import DocViewer.Proofs.Browser.Showing

/-!
# What a browser does not look at

A browser that is altered where it does not look (`Browser.Overlooks`) shows what it would have shown, and what was
altered stays: there is one lemma for each part of the browser, from them one for a visit (`visit_altered`) and one for
every operation but a hover (`operate_altered`), which is about the hint alone.
-/

namespace DocViewer

variable {ω : Type}

/-- What a hover carries: the URL of the link that the pointer enters, or nothing if it leaves one. -/
def Operation.hover? : Operation ω → Option (Option Text)
  | .hover url => some url
  | _ => none

/-- The browser looks at nothing that `f` alters when it shows something. -/
structure Browser.Overlooks (b : Browser) (f : Browser → Browser) : Prop where
  man : (f b).man = b.man
  sections : (f b).config.sections = b.config.sections
  navigation : (f b).navigation = b.navigation
  index : (f b).index = b.index
  /-- Where the documentation is counts for a browser without an index. -/
  library : b.index = none →
    (f b).config.stlRoot = b.config.stlRoot ∧ (f b).config.stlIndex = b.config.stlIndex
  /-- What a visit changes in the browser does not get in the way. -/
  move : ∀ navigation, f { b with navigation } = { f b with navigation }
  keep : ∀ index, f { b with index } = { f b with index }

namespace Session

/-- The session with its browser altered. -/
def altered (s : Session ω) (f : Browser → Browser) : Session ω := { s with browser := f s.browser }

variable {s : Session ω} {f : Browser → Browser}

theorem stlIndex_altered (hf : s.browser.Overlooks f) :
    (s.altered f).stlIndex = (s.stlIndex.1, s.stlIndex.2.altered f) := by
  cases hindex : s.browser.index with
  | some index => rw [stlIndex_of_some hindex, stlIndex_of_some (hf.index.trans hindex)]
  | none =>
    have hnone : (s.altered f).browser.index = none := hf.index.trans hindex
    obtain ⟨hroot, hfile⟩ := hf.library hindex
    rw [stlIndex, hnone, stlIndex, hindex]
    simp only [altered, hroot, hfile]
    rw [hf.keep (some _)]

variable [Writer ω]

/-- Presenting a page does not look at the browser at all. -/
theorem present_altered (s : Session ω) (f : Browser → Browser) (html : Except Error Text) :
    (s.altered f).present html = ((s.present html).1, (s.present html).2.altered f) := by
  cases html with
  | error e => rfl
  | ok page =>
    simp only [present, altered]
    split
    · rfl
    · rfl

theorem openMan_altered (hf : s.browser.Overlooks f) (page sections : Text) :
    (s.altered f).openMan page sections = ((s.openMan page sections).1, (s.openMan page sections).2.altered f) := by
  have hpresent := present_altered { s with world := (s.browser.man.page sections page s.world).2 } f
    (s.browser.man.page sections page s.world).1
  simp only [openMan, altered, hf.man]
  exact hpresent

theorem openStl_altered (hf : s.browser.Overlooks f) (term : Text) :
    (s.altered f).openStl term = ((s.openStl term).1, (s.openStl term).2.altered f) := by
  have hworld : (s.stlIndex.2.altered f).world = s.stlIndex.2.world := rfl
  simp only [openStl, stlIndex_altered hf, hworld]
  split
  · exact present_altered _ f _
  · exact present_altered _ f _
  · rfl

theorem openWeb_altered (hf : s.browser.Overlooks f) (url : Text) :
    (s.altered f).openWeb url = ((s.openWeb url).1, (s.openWeb url).2.altered f) := by
  simp only [openWeb, altered]
  split
  · rfl
  · rw [hf.move (s.browser.navigation.advance url)]
    rfl

/-- A visit does the same, and what was altered stays. -/
theorem visit_altered (hf : s.browser.Overlooks f) (target : Target) :
    (s.altered f).visit target = ((s.visit target).1, (s.visit target).2.altered f) := by
  have hnoted : (s.noting target).browser.Overlooks f := hf
  cases target with
  | man page sections => exact openMan_altered hnoted page sections
  | stl term => exact openStl_altered hnoted term
  | file path => exact present_altered (s.noting (.file path)) f _
  | web url => exact openWeb_altered hnoted url
  | malformed input => rfl

/-- So does every operation but a hover. -/
theorem operate_altered (hf : s.browser.Overlooks f) {op : Operation ω} (hop : op.hover? = none) :
    (s.altered f).operate op = ((s.operate op).1, (s.operate op).2.altered f) := by
  have hvisit : ∀ target, (some ((s.altered f).visit target).1, ((s.altered f).visit target).2) =
      (some (s.visit target).1, (s.visit target).2.altered f) := fun target => by rw [visit_altered hf]
  have hsections : (s.altered f).browser.config.sections = s.browser.config.sections := hf.sections
  have hnavigation : (s.altered f).browser.navigation = s.browser.navigation := hf.navigation
  cases op with
  | search text =>
    simp only [operate, search, hsections]
    exact hvisit _
  | follow link =>
    simp only [operate, follow, hnavigation]
    exact hvisit _
  | visit target => exact hvisit target
  | hover url => cases hop
  | index => rw [operate, operate, stlIndex_altered hf]
  | disk d => rfl
  | display v => rfl

end Session

end DocViewer
