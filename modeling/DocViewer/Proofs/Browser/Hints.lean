import DocViewer.Proofs.Browser.PlainPages
import DocViewer.Proofs.Browser.Snapshots
import DocViewer.Proofs.Link.Hovers

/-!
# Hints in a run

The hint and the rest of a session have nothing to do with each other.

- An operation other than a hover leaves the hint as it is (`operate_hint`). So the hint after a run is the one that its
  hovers leave (`run_hint`), and the hovers of a run say the same without the other operations (`hovers_eq`).
- An operation other than a hover does the same whatever the hint is (`operate_of_no_hover`). So the other operations of
  a run have the same results without the hovers, and leave the same but for the hint (`run_filter`).

`hints_of_run` puts these together with what is known of one hover after another.
-/

namespace DocViewer

/-- Without the other operations, the hovers of the run are still there. -/
theorem Operation.filterMap_filter_hover? {ω : Type} (ops : List (Operation ω)) :
    (ops.filter (·.hover?.isSome)).filterMap Operation.hover? = ops.filterMap Operation.hover? := by
  rw [List.filterMap_filter]
  congr 1
  funext op
  cases op.hover? <;> rfl

namespace Session

variable {ω : Type} [Writer ω]

/-- The hovers of a run, the first one first, each with the number that it gives. -/
def hovers (s : Session ω) : List (Operation ω) → List (Option Text × Option UInt32)
  | [] => []
  | op :: ops => (op.hover?.map fun url => (url, s.browser.hint.number url)).toList ++ (s.operate op).2.hovers ops

/-! ## One operation -/

variable {s : Session ω} {op : Operation ω}

/-- Only a hover changes the hint. -/
theorem operate_hint (s : Session ω) (op : Operation ω) :
    (s.operate op).2.browser.hint = (op.hover?.map s.browser.hint.hover).getD s.browser.hint := by
  cases op with
  | search text => exact (visit_settings s _).2.2
  | follow link => exact (visit_settings s _).2.2
  | visit target => exact (visit_settings s target).2.2
  | index => exact (stlIndex_frame s).1.hint
  | hover | disk | display => rfl

/-- A hover is about the hint alone. -/
theorem operate_of_hover {url : Option Text} (h : op.hover? = some url) : s.operate op = (none, s.hover url) := by
  cases op with
  | hover url' =>
    cases h
    rfl
  | search | follow | visit | index | disk | display => cases h

/-- Nothing else looks at the hint. -/
theorem operate_of_no_hover (h : op.hover? = none) (hint : StatusHint) :
    { s with browser.hint := hint }.operate op =
      ((s.operate op).1, { (s.operate op).2 with browser.hint := hint }) := by
  have hf : s.browser.Overlooks fun b => { b with hint } :=
    { man := rfl, sections := rfl, navigation := rfl, index := rfl, library := fun _ => ⟨rfl, rfl⟩
      move := fun _ => rfl, keep := fun _ => rfl }
  exact operate_altered hf h

/-! ## The hint after a run -/

/-- The hint is the one that the hovers of the run leave. -/
theorem run_hint (s : Session ω) (ops : List (Operation ω)) :
    (s.run ops).2.browser.hint = (ops.filterMap Operation.hover?).foldl StatusHint.hover s.browser.hint := by
  induction ops generalizing s with
  | nil => rfl
  | cons op ops ih =>
    rw [run, ih, operate_hint]
    cases hop : op.hover? with
    | none => rw [List.filterMap_cons_none hop, Option.map_none, Option.getD_none]
    | some url => rw [List.filterMap_cons_some hop, List.foldl_cons, Option.map_some, Option.getD_some]

/-- The hovers of a run say the same without the other operations. -/
theorem hovers_eq (s : Session ω) (ops : List (Operation ω)) :
    s.hovers ops = s.browser.hint.record (ops.filterMap Operation.hover?) := by
  induction ops generalizing s with
  | nil => rfl
  | cons op ops ih =>
    rw [hovers, ih, operate_hint]
    cases hop : op.hover? with
    | none => rw [List.filterMap_cons_none hop]; rfl
    | some url => rw [List.filterMap_cons_some hop]; rfl

/-- The status line tells what the last hover of the run says. -/
theorem told_run (s : Session ω) (ops : List (Operation ω)) :
    (s.run ops).2.browser.hint.told = (s.hovers ops).getLast?.getD s.browser.hint.told := by
  rw [run_hint, StatusHint.told_foldl, hovers_eq]

/-! ## A run without its hovers -/

/-- A run without its hovers, which begins with another hint: its operations have the results that they had, and it
leaves the same but for the hint. -/
theorem run_filter (s : Session ω) (hint : StatusHint) (ops : List (Operation ω)) :
    { s with browser.hint := hint }.run (ops.filter (·.hover?.isNone)) =
      (((ops.zip (s.run ops).1).filter (·.1.hover?.isNone)).map Prod.snd,
        { (s.run ops).2 with browser.hint := hint }) := by
  induction ops generalizing s with
  | nil => rfl
  | cons op ops ih =>
    rw [run, List.zip_cons_cons]
    cases hop : op.hover? with
    | some url =>
      have hsame : { (s.operate op).2 with browser.hint := hint } = { s with browser.hint := hint } := by
        rw [operate_of_hover hop]
        rfl
      rw [List.filter_cons_of_neg (by simp [hop]), List.filter_cons_of_neg (by simp [hop]), ← hsame, ih]
    | none =>
      rw [List.filter_cons_of_pos (by simp [hop]), List.filter_cons_of_pos (by simp [hop]), run,
        operate_of_no_hover hop, ih, List.map_cons]

/-! ## Hints -/

/-- What there is to say about the hints after a run. -/
structure Hints (s : Session ω) (ops : List (Operation ω)) : Prop where
  /-- Every hover of the run gives a number if and only if it carries a URL. -/
  carried : (s.hovers ops).map Prod.fst = ops.filterMap Operation.hover?
  numbered : ∀ p ∈ s.hovers ops, p.2.isSome = p.1.isSome
  /-- No number is given twice, and a number that is given later is greater. -/
  ascending : ((s.hovers ops).filterMap Prod.snd).Pairwise (· < ·)
  distinct : ((s.hovers ops).filterMap Prod.snd).Nodup
  /-- On display is what the last hover carries, with its number. -/
  shown : (s.run ops).2.browser.hint.shown = (s.hovers ops).getLast?.bind Prod.fst
  shownId : (s.run ops).2.browser.hint.shownId = (s.hovers ops).getLast?.bind Prod.snd
  /-- The hint of a hover that was not the last one is not on display. -/
  gone : ∀ p ∈ (s.hovers ops).dropLast, p.2.isSome → (s.run ops).2.browser.hint.shownId ≠ p.2
  /-- Without the hovers, the other operations have the same results, and they leave the same but for the hint. -/
  results : (s.run (ops.filter (·.hover?.isNone))).1 =
    ((ops.zip (s.run ops).1).filter (·.1.hover?.isNone)).map Prod.snd
  session : (s.run (ops.filter (·.hover?.isNone))).2 = { (s.run ops).2 with browser.hint := s.browser.hint }
  /-- Without the other operations, the hovers give the same numbers, and they leave the same hint. -/
  hovers : s.hovers (ops.filter (·.hover?.isSome)) = s.hovers ops
  hint : (s.run (ops.filter (·.hover?.isSome))).2.browser.hint = (s.run ops).2.browser.hint

/-- **The hint on display is that of the last hover.** As long as fewer than `2 ^ 32` hovers of a new browser carry a
URL, their numbers ascend, whatever happens in between; after each operation, what the last hover carries is on display
with its number, and a hint that was cleared or replaced is not. Without the hovers everything else would be the same,
and without everything else the hints would be. -/
theorem hints_of_run (config : Config) (d : Disk) (given : Option Stl.Index) (navigation : Navigation)
    (v : Viewport ω) (w : World) (ops : List (Operation ω))
    (hroom : (ops.filterMap Operation.hover?).countP Option.isSome < 2 ^ 32) :
    ∀ before, before <+: ops → Hints (beginning config d given navigation v w) before := by
  intro before hbefore
  generalize hs : beginning config d given navigation v w = s
  have hnew : s.browser.hint = .new := by rw [← hs]; rfl
  have hhovers : s.hovers before = StatusHint.new.record (before.filterMap Operation.hover?) := by
    rw [hovers_eq, hnew]
  have hfewer : StatusHint.new.last.toNat + (before.filterMap Operation.hover?).countP Option.isSome < 2 ^ 32 := by
    have hle : (before.filterMap Operation.hover?).countP Option.isSome ≤
        (ops.filterMap Operation.hover?).countP Option.isSome := (hbefore.filterMap _).sublist.countP_le
    have hzero : StatusHint.new.last.toNat = 0 := rfl
    omega
  have hascending : ((s.hovers before).filterMap Prod.snd).Pairwise (· < ·) := by
    rw [hhovers]
    exact StatusHint.ascending_numbers hfewer
  have htold : (s.run before).2.browser.hint.told =
      ((s.hovers before).getLast?.bind Prod.fst, (s.hovers before).getLast?.bind Prod.snd) := by
    rw [told_run, hnew]
    cases (s.hovers before).getLast? <;> rfl
  have hfilter := run_filter s s.browser.hint before
  refine
    { carried := ?carried
      numbered := ?numbered
      ascending := hascending
      distinct := hascending.imp UInt32.ne_of_lt
      shown := congrArg Prod.fst htold
      shownId := congrArg Prod.snd htold
      gone := ?gone
      results := congrArg Prod.fst hfilter
      session := congrArg Prod.snd hfilter
      hovers := by rw [hovers_eq, hovers_eq, Operation.filterMap_filter_hover?]
      hint := by rw [run_hint, run_hint, Operation.filterMap_filter_hover?] }
  case carried => rw [hhovers, StatusHint.map_fst_record]
  case numbered =>
    intro p hp
    rw [hhovers] at hp
    exact StatusHint.isSome_of_mem_record hp
  case gone =>
    intro p hp hnumber
    have hshownId : (s.run before).2.browser.hint.shownId = (s.hovers before).getLast?.bind Prod.snd :=
      congrArg Prod.snd htold
    rw [hhovers] at hp hshownId
    rw [hshownId]
    exact StatusHint.number_ne_of_mem_dropLast hfewer hp hnumber

/-- A new browser, where every program prints an `x` and the web is out of reach. -/
def begun : Session Sink := beginning {} (.empty []) none .new (.new Sink.unlimited) (printing "x".toList).world

/-- The reader points at a link and leaves it, and points at another one. In between a web page is asked for, and a
manual page is searched. -/
def pointing : List (Operation Sink) :=
  [.hover (some "man:ls(1)".toList), .follow "http://a".toList, .hover none, .search "ls".toList,
    .hover (some "man:cp(1)".toList), .index]

/-- Nothing is on display between the two hints, and leaving a link uses up no number. -/
theorem hints_of_run_pointing :
    (pointing.filterMap Operation.hover?).countP Option.isSome < 2 ^ 32 ∧
    begun.hovers pointing =
      [(some "man:ls(1)".toList, some 1), (none, none), (some "man:cp(1)".toList, some 2)] ∧
    (begun.run (pointing.take 4)).2.browser.hint.shown = none ∧
    (begun.run pointing).2.browser.hint.shown = some "man:cp(1)".toList ∧
    (begun.run pointing).2.browser.hint.shownId = some 2 ∧
    (begun.run [.follow "http://a".toList, .search "ls".toList, .index]).2.world.requests =
      (begun.run pointing).2.world.requests := by
  have hroom : (pointing.filterMap Operation.hover?).countP Option.isSome < 2 ^ 32 := by decide
  have hhints : ∀ before, before <+: pointing → Hints begun before :=
    hints_of_run {} (.empty []) none .new (.new Sink.unlimited) (printing "x".toList).world pointing hroom
  have hhalf := (hhints (pointing.take 4) (List.take_prefix 4 _)).shown
  have hall := hhints pointing List.prefix_rfl
  have hhovers : begun.hovers pointing =
      [(some "man:ls(1)".toList, some 1), (none, none), (some "man:cp(1)".toList, some 2)] := by
    rw [hovers_eq]
    rfl
  have hbefore : begun.hovers (pointing.take 4) = [(some "man:ls(1)".toList, some 1), (none, none)] := by
    rw [hovers_eq]
    rfl
  refine ⟨hroom, hhovers, ?_, ?_, ?_, congrArg (·.world.requests) hall.session⟩
  · rw [hhalf, hbefore]
    rfl
  · rw [hall.shown, hhovers]
    rfl
  · rw [hall.shownId, hhovers]
    rfl

end Session

end DocViewer
