import DocViewer.CommandLine.Run
import DocViewer.Proofs.Browser.Likeness
import DocViewer.Proofs.Text.Decoding
import DocViewer.Proofs.Text.Lines

/-!
# Dialogues as folds

The lines of an input are those that were written to it (`inputLines_encode`). A dialogue goes over its lines up to the
first one that quits and does what each of them asks for, whatever came of the lines before it (`converse_eq`).
`Request.Reads` says what a line asks for, and what the line does to the session is what that operation does
(`perform_same`): a dialogue adds nothing to it but records of the log and lines for the reader.

`dialogue_fold` puts these together.
-/

namespace DocViewer

/-- The line ends the dialogue. -/
def Quits (line : Text) : Prop := trim line = ":quit".toList

instance (line : Text) : Decidable (Quits line) := inferInstanceAs (Decidable (trim line = ":quit".toList))

/-! ## The lines of an input -/

section Written

variable {ls : List Bytes} {last : Bytes} (h : ∀ l ∈ ls, 10 ∉ l) (hlast : 10 ∉ last)
include h hlast

theorem splitOn_written : (ls.flatMap (· ++ [10]) ++ last).splitOn 10 = ls ++ [last] := by
  induction ls with
  | nil => exact List.splitOn_eq_singleton hlast
  | cons l ls ih =>
    obtain ⟨hl, hls⟩ := List.forall_mem_cons.mp h
    rw [List.flatMap_cons, List.append_assoc, List.append_assoc, List.singleton_append,
      List.splitOn_append_cons_self_of_not_mem hl, ih hls, List.cons_append]

/-- Lines that are written with a newline each are read back; what stands behind the last newline is a line if it is not
empty. -/
theorem inputLines_written :
    inputLines (ls.flatMap (· ++ [10]) ++ last) = ls ++ if last = [] then [] else [last] := by
  simp only [inputLines, splitOn_written h hlast, List.getLast?_concat, Option.some.injEq]
  split
  · rw [List.dropLast_concat, List.append_nil]
  · rfl

end Written

theorem newline_not_mem_encode {t : Text} (h : '\n' ∉ t) : 10 ∉ encode t := fun hmem =>
  h (mem_of_mem_encode (by decide) hmem)

/-- The lines of a text are read back from its bytes. -/
theorem inputLines_encode {lines : List Text} {last : Text} (h : ∀ line ∈ lines, '\n' ∉ line) (hlast : '\n' ∉ last) :
    inputLines (encode (unlines lines ++ last)) = (lines ++ if last = [] then [] else [last]).map encode := by
  have hbytes : encode (unlines lines ++ last) = (lines.map encode).flatMap (· ++ [10]) ++ encode last := by
    simp only [encode, unlines, List.flatMap_append, List.flatMap_assoc, List.flatMap_map]
    rfl
  have hlines : ∀ l ∈ lines.map encode, 10 ∉ l := List.forall_mem_map.mpr fun line hline =>
    newline_not_mem_encode (h line hline)
  rw [hbytes, inputLines_written hlines (newline_not_mem_encode hlast), List.map_append]
  by_cases hempty : last = []
  · rw [hempty]
    rfl
  · have hne : encode last ≠ [] := fun hnil => hempty (by rw [← decodeLossy_encode last, hnil]; rfl)
    rw [if_neg hempty, if_neg hne, List.map_singleton]

/-! ## What a line asks for -/

/-- How a line is read, once the white space at its ends is taken off. -/
inductive Request.Reads (line : Text) : Request → Prop
  | nothing (h : trim line = []) : Reads line .nothing
  | quit (h : Quits line) : Reads line .quit
  | follow {rest : Text} (h : trim line = ":open ".toList ++ rest) : Reads line (.follow (trim rest))
  | leave {rest : Text} (h : trim line = ":hover".toList ++ rest) (hrest : trim rest = []) : Reads line (.hover none)
  | hover {rest : Text} (h : trim line = ":hover".toList ++ rest) (hrest : trim rest ≠ []) :
    Reads line (.hover (some (trim rest)))
  | search (hne : trim line ≠ []) (hquit : ¬Quits line) (hopen : ¬":open ".toList <+: trim line)
    (hhover : ¬":hover".toList <+: trim line) : Reads line (.search (trim line))

namespace Request

variable {line rest : Text}

theorem ofLine_blank (h : trim line = []) : ofLine line = .nothing := by
  rw [ofLine, h]
  rfl

theorem ofLine_quit (h : Quits line) : ofLine line = .quit := by
  rw [ofLine, show trim line = ":quit".toList from h]
  rfl

theorem ofLine_open (h : trim line = ":open ".toList ++ rest) : ofLine line = .follow (trim rest) := by
  rw [ofLine, h]
  rfl

theorem ofLine_hover (h : trim line = ":hover".toList ++ rest) :
    ofLine line = .hover (if trim rest = [] then none else some (trim rest)) := by
  rw [ofLine, h]
  simp only [← List.isEmpty_iff]
  rfl

theorem ofLine_other (hne : trim line ≠ []) (hquit : ¬Quits line) (hopen : ¬":open ".toList <+: trim line)
    (hhover : ¬":hover".toList <+: trim line) : ofLine line = .search (trim line) := by
  simp only [ofLine, dropPrefix?_eq_none.mpr hopen, dropPrefix?_eq_none.mpr hhover]
  rw [if_neg (by rwa [List.isEmpty_iff])]
  exact if_neg hquit

theorem ofLine_of_reads {request : Request} (h : Reads line request) : ofLine line = request := by
  cases h with
  | nothing h => exact ofLine_blank h
  | quit h => exact ofLine_quit h
  | follow h => exact ofLine_open h
  | leave h hrest => rw [ofLine_hover h, if_pos hrest]
  | hover h hrest => rw [ofLine_hover h, if_neg hrest]
  | search hne hquit hopen hhover => exact ofLine_other hne hquit hopen hhover

/-- Every line is read in one of these ways. -/
theorem reads_ofLine (line : Text) : Reads line (ofLine line) := by
  by_cases hblank : trim line = []
  · rw [ofLine_blank hblank]
    exact .nothing hblank
  by_cases hquit : Quits line
  · rw [ofLine_quit hquit]
    exact .quit hquit
  by_cases hopen : ":open ".toList <+: trim line
  · obtain ⟨rest, hrest⟩ := hopen
    rw [ofLine_open hrest.symm]
    exact .follow hrest.symm
  by_cases hhover : ":hover".toList <+: trim line
  · obtain ⟨rest, hrest⟩ := hhover
    rw [ofLine_hover hrest.symm]
    split
    · rename_i hleave
      exact .leave hrest.symm hleave
    · rename_i henter
      exact .hover hrest.symm henter
  · rw [ofLine_other hblank hquit hopen hhover]
    exact .search hblank hquit hopen hhover

theorem ofLine_eq_iff {request : Request} : ofLine line = request ↔ Reads line request :=
  ⟨fun h => h ▸ reads_ofLine line, ofLine_of_reads⟩

/-- Only `:quit` quits. -/
theorem ofLine_ne_quit (h : ¬Quits line) : ofLine line ≠ .quit := by
  intro hquit
  cases ofLine_eq_iff.mp hquit with
  | quit h' => exact h h'

end Request

namespace Session

variable {ω : Type}

/-! ## Records and lines for the reader -/

/-- Only the log tells how showing a page went. -/
theorem conclude_same (p : Except Error Outcome × Session ω) : Same (conclude p) p.2 := by
  obtain ⟨result, s⟩ := p
  cases result with
  | error e => exact ⟨rfl, rfl, (World.log_alike _ _ _ _ _).same⟩
  | ok outcome =>
    cases outcome with
    | shown | streamed | ignored | notFound => exact ⟨rfl, rfl, (World.log_alike _ _ _ _ _).same⟩

theorem tellHint_same (s : Session ω) : Same s.tellHint s := by
  unfold tellHint
  split
  · exact ⟨rfl, rfl, rfl, rfl, rfl, rfl, rfl, rfl⟩
  · exact .refl s

variable [Writer ω]

/-! ## The fold -/

section Fold

variable {settle : Session ω → Session ω}

theorem converse_quit {line : Text} (h : Quits line) (lines : List Bytes) (s : Session ω) :
    s.converse settle (encode line :: lines) = (.ok (), s) := by
  simp only [converse, decode?_encode, Request.ofLine_quit h]

theorem converse_cons {line : Text} (h : ¬Quits line) (lines : List Bytes) (s : Session ω) :
    s.converse settle (encode line :: lines) =
      (settle (s.perform (Request.ofLine line))).converse settle lines := by
  rw [converse, decode?_encode]
  simp only
  split
  · rename_i hquit
    exact absurd hquit (Request.ofLine_ne_quit h)
  · rfl

/-- A dialogue goes over its lines up to the first one that quits. -/
theorem converse_eq (s : Session ω) (lines : List Text) : s.converse settle (lines.map encode) =
    (.ok (), (lines.takeWhile fun line => ¬Quits line).foldl
      (fun s line => settle (s.perform (Request.ofLine line))) s) := by
  induction lines generalizing s with
  | nil => rfl
  | cons line lines ih =>
    rw [List.map_cons]
    by_cases h : Quits line
    · rw [converse_quit h, List.takeWhile_cons_of_neg (by simpa using h), List.foldl_nil]
    · rw [converse_cons h, ih, List.takeWhile_cons_of_pos (by simpa using h), List.foldl_cons]

/-- A dialogue in which nothing quits goes on with the lines that follow. -/
theorem converse_append {lines : List Text} (h : ∀ line ∈ lines, ¬Quits line) (more : List Bytes) (s : Session ω) :
    s.converse settle (lines.map encode ++ more) = (s.converse settle (lines.map encode)).2.converse settle more := by
  induction lines generalizing s with
  | nil => rfl
  | cons line lines ih =>
    have hline := h line List.mem_cons_self
    rw [List.map_cons, List.cons_append, converse_cons hline, converse_cons hline]
    exact ih (fun line hline => h line (List.mem_cons_of_mem _ hline)) _

/-- What follows a line that quits makes no difference. -/
theorem converse_after_quit (lines : List Text) {line : Text} (h : Quits line) (more : List Bytes) (s : Session ω) :
    s.converse settle (lines.map encode ++ encode line :: more) = s.converse settle (lines.map encode) := by
  induction lines generalizing s with
  | nil => exact converse_quit h more s
  | cons first lines ih =>
    rw [List.map_cons, List.cons_append]
    by_cases hfirst : Quits first
    · rw [converse_quit hfirst, converse_quit hfirst]
    · rw [converse_cons hfirst, converse_cons hfirst]
      exact ih _

end Fold

/-! ## What a line does -/

/-- What a request does to the session, records of the log and lines for the reader apart. -/
def effect (s : Session ω) : Request → Session ω
  | .nothing | .quit => s
  | .follow link => (s.follow link).2
  | .hover url => s.hover url
  | .search text => (s.search text).2

section Same

variable {s s' : Session ω}

theorem Same.effect (h : Same s s') (request : Request) : Same (s.effect request) (s'.effect request) := by
  cases request with
  | nothing | quit => exact h
  | follow link => exact (h.operate (.follow link)).2
  | hover url => exact (h.operate (.hover url)).2
  | search text => exact (h.operate (.search text)).2

/-- A line does what the operation does that it asks for. -/
theorem perform_same (s : Session ω) (request : Request) : Same (s.perform request) (s.effect request) := by
  cases request with
  | nothing | quit => exact .refl s
  | follow link => exact conclude_same _
  | hover url => exact tellHint_same _
  | search text => exact conclude_same _

/-- So do lines one after another. -/
theorem foldl_perform_same {settle : Session ω → Session ω}
    (hsettle : ∀ s s' : Session ω, Same s s' → Same (settle s) (settle s')) (h : Same s s') (lines : List Text) :
    Same (lines.foldl (fun s line => settle (s.perform (Request.ofLine line))) s)
      (lines.foldl (fun s line => settle (s.effect (Request.ofLine line))) s') := by
  induction lines generalizing s s' with
  | nil => exact h
  | cons line lines ih =>
    rw [List.foldl_cons, List.foldl_cons]
    exact ih (hsettle _ _ ((perform_same s _).trans (h.effect _)))

end Same

/-- Bringing what was written to its place is the same for sessions that are the same. -/
theorem Same.save {s s' : Session Sink} (h : Same s s') (place : Option Place) :
    Same (CommandLine.save place s) (CommandLine.save place s') := by
  cases place with
  | none => exact h
  | some place =>
    have hdisk : s.world.disk.put place s.viewport.sink.data = s'.world.disk.put place s'.viewport.sink.data := by
      rw [h.viewport, h.world.disk]
    exact ⟨h.browser, h.viewport, h.world.effect, h.world.fetcher, h.world.inflate, hdisk, h.world.calls,
      h.world.requests⟩

/-- The program holds a dialogue on the lines of its input. -/
theorem perform_shell (settle : Session ω → Session ω) (s : Session ω) {lines : List Text} {stdin : Bytes}
    (h : inputLines stdin = lines.map encode) :
    CommandLine.perform settle stdin .shell s = (.ok true, (s.converse settle (lines.map encode)).2) := by
  rw [CommandLine.perform, h, converse_eq]
  rfl

/-- **A dialogue is a fold that no failing page interrupts.** It succeeds, and it leaves what its lines leave one after
another, up to the first one that quits; each line does what the operation does that it asks for, whatever comes of it.
(What is done after each line may not hang on the journal, and bringing what was written to its place does not.) The
lines are those of the input, where the last one may have no newline. So a dialogue is one with the lines in front and
then one with those behind, as long as nothing quits, and what follows a line that quits makes no difference. -/
theorem dialogue_fold (settle : Session ω → Session ω) (s : Session ω) (lines : List Text) :
    (s.converse settle (lines.map encode)).1 = .ok () ∧
    ((∀ t t' : Session ω, Same t t' → Same (settle t) (settle t')) →
      Same (s.converse settle (lines.map encode)).2 ((lines.takeWhile fun line => ¬Quits line).foldl
        (fun t line => settle (t.effect (Request.ofLine line))) s)) ∧
    (∀ line request, Request.ofLine line = request ↔ Request.Reads line request) ∧
    (∀ more, (∀ line ∈ lines, ¬Quits line) → s.converse settle ((lines ++ more).map encode) =
      (s.converse settle (lines.map encode)).2.converse settle (more.map encode)) ∧
    (∀ line more, Quits line →
      s.converse settle (lines.map encode ++ encode line :: more) = s.converse settle (lines.map encode)) ∧
    (∀ stdin, inputLines stdin = lines.map encode →
      CommandLine.perform settle stdin .shell s = (.ok true, (s.converse settle (lines.map encode)).2)) ∧
    ((∀ line ∈ lines, '\n' ∉ line) →
      (∀ last, '\n' ∉ last →
        inputLines (encode (unlines lines ++ last)) = (lines ++ if last = [] then [] else [last]).map encode) ∧
      CommandLine.perform settle (encode (unlines lines)) .shell s =
        (.ok true, (s.converse settle (lines.map encode)).2)) ∧
    ∀ (place : Option Place) (t t' : Session Sink), Same t t' →
      Same (CommandLine.save place t) (CommandLine.save place t') := by
  refine ⟨by rw [converse_eq], fun hsettle => ?_, fun _ _ => Request.ofLine_eq_iff, fun more h => ?_,
    fun line more h => converse_after_quit lines h more s, fun _ => perform_shell settle s,
    fun h => ⟨fun _ => inputLines_encode h, perform_shell settle s ?_⟩, fun place _ _ h => h.save place⟩
  · rw [converse_eq]
    exact foldl_perform_same hsettle (.refl s) _
  · rw [List.map_append, converse_append h]
  · have hread := inputLines_encode h (List.not_mem_nil (a := '\n'))
    rwa [List.append_nil, if_pos rfl, List.append_nil] at hread

end Session

end DocViewer
