import DocViewer.Man
import DocViewer.Proofs.World

/-!
# What a manual page is

A manual page is told here without the journal: `ManPages.shown` is the page, and `ManPages.commands` are the commands
that are run for it. `page_spec` says that these are what `ManPages.page` gives and leaves behind.
-/

namespace DocViewer

open World

/-- The errors of finding a page. -/
def Error.unfound : Error → Bool
  | .spawn .. | .io .. | .decompress .. => true
  | .fetch .. | .stream _ => false

/-- What a command prints. -/
def World.printed (w : World) (c : Command) : Except Error Text := (w.reply c).map Captured.text

/-- A result that was an error after something was made of it was one before. -/
theorem eq_error_of_map {α β : Type} {x : Except Error α} {f : α → β} {e : Error} (h : x.map f = .error e) :
    x = .error e := by
  cases x with
  | error e' =>
    cases h
    rfl
  | ok _ => cases h

theorem World.printed_error {w : World} {c : Command} {e : Error} (h : w.printed c = .error e) : e.unfound = true := by
  obtain ⟨fault, rfl⟩ := reply_error (eq_error_of_map h)
  rfl

namespace ManPages

theorem output_fst (c : Command) (w : World) : (output c w).1 = w.printed c := by
  unfold output printed
  rw [← run_fst]
  split
  · rename_i hr
    rw [hr]
    rfl
  · rename_i hr
    rw [hr]
    rfl

theorem output_alike (c : Command) (w : World) : Alike (output c w).2 (w.ran c) := by
  have h := run_alike w c
  unfold output
  split
  · rename_i hr
    rwa [hr] at h
  · rename_i hr
    rw [hr] at h
    simp only
    split
    · exact h
    · exact (log_alike _ _ _ _ _).trans h

/-! ## Manual pages without the journal -/

/-- The source of a page, if there is one. -/
def located (m : ManPages) (sections page : Text) (w : World) : Except Error (Option Bytes) :=
  match w.printed (m.locateCommand sections page) with
  | .error e => .error e
  | .ok text =>
    if (pathIn text).isEmpty then .ok none
    else (readSource w.inflate (w.ran (m.locateCommand sections page)).disk (pathIn text)).map some

/-- The page as HTML. -/
def shown (m : ManPages) (sections page : Text) (w : World) : Except Error Text :=
  match m.formatter with
  | none => (w.printed (m.printCommand sections page)).map plainPage
  | some formatter =>
    match m.located sections page w with
    | .error e => .error e
    | .ok none => .ok []
    | .ok (some source) =>
      ((w.ran (m.locateCommand sections page)).printed (formatCommand formatter source)).map Html.tidy

/-- The commands that are run for a page, the first one first. -/
def commands (m : ManPages) (sections page : Text) (w : World) : List Command :=
  match m.formatter with
  | none => [m.printCommand sections page]
  | some formatter =>
    match m.located sections page w with
    | .ok (some source) => [m.locateCommand sections page, formatCommand formatter source]
    | _ => [m.locateCommand sections page]

/-! ## Errors -/

theorem readSource_error {inflate : Inflater} {d : Disk} {path : Text} {e : Error}
    (h : readSource inflate d path = .error e) : e.unfound = true := by
  unfold readSource at h
  split at h
  · cases h
    rfl
  · split at h
    · split at h
      · cases h
      · cases h
        rfl
    · cases h

/-- Finding the source of a page fails only as finding a page may. -/
theorem located_error {m : ManPages} {sections page : Text} {w : World} {e : Error}
    (h : m.located sections page w = .error e) : e.unfound = true := by
  unfold located at h
  split at h
  · rename_i hp
    cases h
    exact printed_error hp
  · split at h
    · cases h
    · exact readSource_error (eq_error_of_map h)

/-- Finding a page fails only if a program does not start or the source cannot be read. -/
theorem shown_error {m : ManPages} {sections page : Text} {w : World} {e : Error}
    (h : m.shown sections page w = .error e) : e.unfound = true := by
  unfold shown at h
  split at h
  · exact printed_error (eq_error_of_map h)
  · split at h
    · rename_i hl
      cases h
      exact located_error hl
    · cases h
    · exact printed_error (eq_error_of_map h)

/-! ## The journal makes no difference -/

/-- Without a formatter, the page is what one command prints. -/
theorem plain_spec (m : ManPages) (sections page : Text) (w : World) :
    (m.plain sections page w).1 = (w.printed (m.printCommand sections page)).map plainPage ∧
      Alike (m.plain sections page w).2 (w.ran (m.printCommand sections page)) := by
  have hfst := output_fst (m.printCommand sections page) w
  have halike := output_alike (m.printCommand sections page) w
  unfold plain
  split
  · rename_i h
    rw [h] at hfst halike
    rw [← hfst]
    exact ⟨rfl, halike⟩
  · rename_i h
    rw [h] at hfst halike
    rw [← hfst]
    exact ⟨rfl, halike⟩

/-- With a formatter, a second command turns the source into the page, if there is a source. -/
theorem formatted_spec {m : ManPages} {formatter : Text} (hm : m.formatter = some formatter) (sections page : Text)
    (w : World) : (m.formatted formatter sections page w).1 = m.shown sections page w ∧
      Alike (m.formatted formatter sections page w).2 ((m.commands sections page w).foldl ran w) := by
  have hfst := output_fst (m.locateCommand sections page) w
  have halike := output_alike (m.locateCommand sections page) w
  unfold formatted shown commands located
  simp only [hm]
  cases ho : output (m.locateCommand sections page) w with
  | mk result w₁ =>
    rw [ho] at hfst halike
    rw [← hfst]
    cases result with
    | error e => exact ⟨rfl, halike⟩
    | ok text =>
      simp only
      by_cases hempty : (pathIn text).isEmpty = true
      · rw [if_pos hempty, if_pos hempty]
        exact ⟨rfl, (log_alike _ _ _ _ _).trans ((log_alike _ _ _ _ _).trans halike)⟩
      rw [if_neg hempty, if_neg hempty]
      have hlog := (log_alike w₁ .debug "gman::man" "located"
        [("page", .quoted page), ("section", .quoted sections), ("path", .quoted (pathIn text))]).trans halike
      -- from here on the world with the new record is like the one after the first command
      generalize w₁.log _ _ _ _ = w₂ at hlog ⊢
      rw [show w₂.inflate = w.inflate from hlog.inflate, hlog.disk]
      cases hr : readSource w.inflate (w.ran (m.locateCommand sections page)).disk (pathIn text) with
      | error e => exact ⟨rfl, hlog⟩
      | ok source =>
        have hfst' := output_fst (formatCommand formatter source) w₂
        have halike' := (output_alike (formatCommand formatter source) w₂).trans (hlog.ran _)
        simp only [Except.map]
        rw [printed, ← hlog.reply, ← printed, ← hfst']
        cases ho' : output (formatCommand formatter source) w₂ with
        | mk result' w₃ =>
          rw [ho'] at halike'
          cases result' with
          | error e => exact ⟨rfl, halike'⟩
          | ok html => exact ⟨rfl, halike'⟩

/-- **A manual page**, and the world after it was looked for. -/
theorem page_spec (m : ManPages) (sections page : Text) (w : World) :
    (m.page sections page w).1 = m.shown sections page w ∧
      Alike (m.page sections page w).2 ((m.commands sections page w).foldl ran w) := by
  cases hm : m.formatter with
  | some formatter =>
    rw [ManPages.page, hm]
    exact formatted_spec hm sections page w
  | none =>
    rw [ManPages.page, shown, commands, hm]
    exact plain_spec m sections page w

/-- Looking for a page asks for no web page. -/
theorem page_offline (m : ManPages) (sections page : Text) (w : World) : Offline w (m.page sections page w).2 := by
  have hran := ran_offline w (m.commands sections page w)
  exact hran.trans (page_spec m sections page w).2.offline

end ManPages

end DocViewer
