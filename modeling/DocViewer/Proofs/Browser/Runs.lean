import DocViewer.Proofs.Browser.Visiting
import DocViewer.Proofs.Text.Literals

/-!
# Runs of the browser

A run is a list of operations (`Session.run`); the disk and the viewport may be exchanged in between.

- One operation moves the browser if a web page has arrived as a whole, and asks for the web page that its target is
  (`operate_navigation`, `operate_requests`).
- `navigation_of_run`: after a run the browser is where the last web page came from that has arrived, and this is what
  the next relative link is read against.
-/

namespace DocViewer

/-- What may happen to a session. -/
inductive Operation (ω : Type)
  | search (text : Text)
  | follow (link : Text)
  | visit (target : Target)
  | hover (url : Option Text)
  /-- The index of the library is asked for. -/
  | index
  /-- The disk is changed from outside. -/
  | disk (d : Disk)
  /-- The pages to come are shown elsewhere. -/
  | display (v : Viewport ω)

/-- The URL of a web page that has arrived. -/
def arrived? : Option (Except Error Outcome) → Option Text
  | some (.ok (.streamed url _)) => some url
  | _ => none

/-! ## What a search or a link asks for -/

namespace Target

theorem asked_ofManUrl (url : Text) : (ofManUrl url).asked = [] := by
  unfold ofManUrl
  split <;> rfl

theorem asked_ofStlUrl (url : Text) : (ofStlUrl url).asked = [] := by
  unfold ofStlUrl
  split <;> rfl

/-- A search asks for no web page. -/
theorem asked_ofSearch (text sections : Text) : (ofSearch text sections).asked = [] := by
  simp only [ofSearch]
  split
  · exact asked_ofManUrl _
  · split
    · exact asked_ofStlUrl _
    · rfl

/-- A link to a manual page or a file asks for no web page. -/
theorem asked_ofLink_local {link : Text} (h : "man:".toList <+: link ∨ "file://".toList <+: link) (nav : Navigation) :
    (ofLink link nav).asked = [] := by
  unfold ofLink
  by_cases hman : (dropPrefix? manScheme link).isSome = true
  · rw [if_pos hman]
    exact asked_ofManUrl link
  rw [if_neg hman]
  cases hfile : dropPrefix? fileScheme link with
  | some path => rfl
  | none =>
    rcases h with h | h
    · exact absurd (isSome_dropPrefix?.mpr h) hman
    · have hsome : (dropPrefix? fileScheme link).isSome = true := isSome_dropPrefix?.mpr h
      rw [hfile] at hsome
      cases hsome

/-- A link with a scheme of the web asks for the link itself. -/
theorem asked_ofLink_web {link : Text} (h : "http://".toList <+: link ∨ "https://".toList <+: link) (nav : Navigation) :
    (ofLink link nav).asked = [link] := by
  have hweb : ((dropPrefix? "http://".toList link).isSome || (dropPrefix? "https://".toList link).isSome) = true := by
    rw [Bool.or_eq_true, isSome_dropPrefix?, isSome_dropPrefix?]
    exact h
  have hhead : ∃ rest, link = 'h' :: rest := by
    obtain ⟨rest, rfl⟩ | ⟨rest, rfl⟩ := h <;> exact ⟨_, rfl⟩
  obtain ⟨rest, hrest⟩ := hhead
  have hman : dropPrefix? manScheme link = none := by rw [hrest]; rfl
  have hfile : dropPrefix? fileScheme link = none := by rw [hrest]; rfl
  rw [ofLink, hman, hfile, if_pos hweb]
  rfl

/-- Any other link is relative to where the browser is. -/
theorem asked_ofLink_relative {link : Text} (hman : ¬"man:".toList <+: link) (hfile : ¬"file://".toList <+: link)
    (hhttp : ¬"http://".toList <+: link) (hhttps : ¬"https://".toList <+: link) (nav : Navigation) :
    (ofLink link nav).asked = [nav.current.getD [] ++ link] := by
  have hnone : ∀ {p : Text}, ¬p <+: link → dropPrefix? p link = none := fun h =>
    Option.not_isSome_iff_eq_none.mp (mt isSome_dropPrefix?.mp h)
  have hman' : dropPrefix? manScheme link = none := hnone hman
  have hfile' : dropPrefix? fileScheme link = none := hnone hfile
  rw [ofLink, hman', hfile', hnone hhttp, hnone hhttps]
  rfl

end Target

/-! ## Operations and runs -/

namespace Session

variable {ω : Type}

/-- What an operation is to show. -/
def target? (s : Session ω) : Operation ω → Option Target
  | .search text => some (Target.ofSearch text s.browser.config.sections)
  | .follow link => some (Target.ofLink link s.browser.navigation)
  | .visit target => some target
  | _ => none

/-- The web pages that an operation asks for. -/
def asked (s : Session ω) (op : Operation ω) : List Text := ((s.target? op).map Target.asked).getD []

/-- One operation asks for at most one web page. -/
theorem reverse_asked (s : Session ω) (op : Operation ω) : (s.asked op).reverse = s.asked op := by
  unfold asked
  cases s.target? op with
  | none => rfl
  | some target => cases target <;> rfl

variable [Writer ω]

/-- One operation, and its result if something was to be shown. -/
def operate (s : Session ω) : Operation ω → Option (Except Error Outcome) × Session ω
  | .search text => (some (s.search text).1, (s.search text).2)
  | .follow link => (some (s.follow link).1, (s.follow link).2)
  | .visit target => (some (s.visit target).1, (s.visit target).2)
  | .hover url => (none, s.hover url)
  | .index => (none, s.stlIndex.2)
  | .disk d => (none, { s with world := { s.world with disk := d } })
  | .display v => (none, { s with viewport := v })

/-- A run of operations, with the result of each. -/
def run (s : Session ω) : List (Operation ω) → List (Option (Except Error Outcome)) × Session ω
  | [] => ([], s)
  | op :: ops => ((s.operate op).1 :: ((s.operate op).2.run ops).1, ((s.operate op).2.run ops).2)

/-- The web pages that a run asks for, the first one first. -/
def inquiries (s : Session ω) : List (Operation ω) → List Text
  | [] => []
  | op :: ops => s.asked op ++ (s.operate op).2.inquiries ops

/-! ## One operation -/

/-- Only a web page that has arrived moves the browser. -/
theorem visit_navigation (s : Session ω) (target : Target) :
    (s.visit target).2.browser.navigation.current =
      (arrived? (some (s.visit target).1)).or s.browser.navigation.current := by
  have h := visit_announced s target
  cases hv : s.visit target with
  | mk result s' =>
    rw [hv] at h
    have hstill : s.browser.Still s'.browser → s'.browser.navigation.current = s.browser.navigation.current := fun h =>
      congrArg Navigation.current h.navigation
    cases result with
    | ok outcome =>
      cases outcome with
      | shown =>
        obtain ⟨_, _, _, _, _, h⟩ := h
        exact hstill h
      | streamed url n =>
        obtain ⟨_, _, _, _, _, _, _, _, h, _⟩ := h
        exact h
      | ignored => exact hstill h.2.2.1
      | notFound term => exact hstill h.2.2.2.1
    | error e =>
      cases e with
      | fetch => exact hstill h.2.2.2
      | stream => exact hstill h.2
      | spawn | io | decompress => exact hstill h.2.2

/-- Only a web page that has arrived moves the browser, whatever the operation is. -/
theorem operate_navigation (s : Session ω) (op : Operation ω) :
    (s.operate op).2.browser.navigation.current = (arrived? (s.operate op).1).or s.browser.navigation.current := by
  cases op with
  | search text => exact visit_navigation s _
  | follow link => exact visit_navigation s _
  | visit target => exact visit_navigation s target
  | index => exact congrArg Navigation.current (stlIndex_frame s).1.navigation
  | hover | disk | display => rfl

theorem operate_requests (s : Session ω) (op : Operation ω) :
    (s.operate op).2.world.requests = s.asked op ++ s.world.requests := by
  cases op with
  | search text => exact visit_requests s _
  | follow link => exact visit_requests s _
  | visit target => exact visit_requests s target
  | index => exact (stlIndex_frame s).2.2.requests
  | hover | disk | display => rfl

/-! ## Runs -/

/-- After a run the browser is where the last web page came from that has arrived. -/
theorem run_navigation (s : Session ω) (ops : List (Operation ω)) :
    (s.run ops).2.browser.navigation.current =
      ((s.run ops).1.filterMap arrived?).getLast?.or s.browser.navigation.current := by
  induction ops generalizing s with
  | nil => rfl
  | cons op ops ih =>
    have hstep := operate_navigation s op
    rw [run, ih, hstep]
    cases ha : arrived? (s.operate op).1 with
    | none => rw [List.filterMap_cons_none ha, Option.none_or]
    | some url =>
      rw [List.filterMap_cons_some ha, List.getLast?_cons, Option.some_or]
      cases (List.filterMap arrived? ((s.operate op).2.run ops).1).getLast? <;> rfl

/-- A run asks for what its operations ask for. -/
theorem run_requests (s : Session ω) (ops : List (Operation ω)) :
    (s.run ops).2.world.requests = (s.inquiries ops).reverse ++ s.world.requests := by
  induction ops generalizing s with
  | nil => rfl
  | cons op ops ih =>
    rw [run, ih, operate_requests, inquiries, List.reverse_append, reverse_asked, List.append_assoc]

/-- **The browser is where the last web page came from that has arrived**, or where it was at first: nothing else that
happens in a run moves it. A link to the web asks for itself, a relative link for the URL at which the browser is with
the link behind it; a link to a manual page or a file asks for no web page, and neither does a search. A run asks for
what its operations ask for, and for nothing else. -/
theorem navigation_of_run (s : Session ω) (ops : List (Operation ω)) :
    (s.run ops).2.browser.navigation.current =
      ((s.run ops).1.filterMap arrived?).getLast?.or s.browser.navigation.current ∧
    (s.run ops).2.world.requests = (s.inquiries ops).reverse ++ s.world.requests ∧
    (∀ link, "http://".toList <+: link ∨ "https://".toList <+: link →
      ((s.run ops).2.operate (.follow link)).2.world.requests = link :: (s.run ops).2.world.requests) ∧
    (∀ link, ¬"man:".toList <+: link → ¬"file://".toList <+: link → ¬"http://".toList <+: link →
      ¬"https://".toList <+: link → ((s.run ops).2.operate (.follow link)).2.world.requests =
        ((s.run ops).2.browser.navigation.current.getD [] ++ link) :: (s.run ops).2.world.requests) ∧
    (∀ link, "man:".toList <+: link ∨ "file://".toList <+: link →
      ((s.run ops).2.operate (.follow link)).2.world.requests = (s.run ops).2.world.requests) ∧
    ∀ text, ((s.run ops).2.operate (.search text)).2.world.requests = (s.run ops).2.world.requests := by
  generalize hrun : (s.run ops).2 = t
  have hfollow : ∀ link, (t.operate (.follow link)).2.world.requests =
      (Target.ofLink link t.browser.navigation).asked ++ t.world.requests := fun link => operate_requests t _
  refine ⟨by rw [← hrun]; exact run_navigation s ops, by rw [← hrun]; exact run_requests s ops, ?_, ?_, ?_, ?_⟩
  · intro link h
    rw [hfollow, Target.asked_ofLink_web h]
    rfl
  · intro link hman hfile hhttp hhttps
    rw [hfollow, Target.asked_ofLink_relative hman hfile hhttp hhttps]
    rfl
  · intro link h
    rw [hfollow, Target.asked_ofLink_local h]
    rfl
  · intro text
    have hsearch := operate_requests t (.search text)
    rw [asked, target?, Option.map_some, Target.asked_ofSearch] at hsearch
    exact hsearch

end Session

end DocViewer
