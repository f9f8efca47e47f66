import DocViewer.Proofs.Output.Calls

/-!
# What copying keeps

Between any two calls of copying, the writer has taken all of the bytes read, but for what is left of one chunk
(`Sound`). The first state has this (`Sound.start`) and every call keeps it (`Sound.step`), so every moment has it
(`sound_moment`), and with it every list of first calls (`copyTraced_between`).

`copyChunked_exact` says what follows for the bytes in the writer, the number returned and the flushes.
-/

namespace DocViewer

open Writer

/-! ## The body of a reader -/

namespace Reader

/-- The bytes that arrive until a read gives no bytes or fails. -/
def body : Reader → Bytes
  | .bytes (b :: bs) :: r => b :: bs ++ body r
  | _ => []

/-- Whether a read gives no bytes before one fails. -/
def ends : Reader → Bool
  | .bytes (_ :: _) :: r => ends r
  | .fault _ :: _ => false
  | _ => true

/-- A read that gives no bytes is the end of the body. -/
theorem body_of_read_nil {r r' : Reader} (h : r.read = (.ok [], r')) : r.body = [] ∧ r.ends = true := by
  match r with
  | [] => exact ⟨rfl, rfl⟩
  | .fault _ :: _ => cases h
  | .bytes [] :: _ => exact ⟨rfl, rfl⟩
  | .bytes (b :: bs) :: _ => simp [read, chunkSize] at h

/-- A read that fails ends the body too early. -/
theorem body_of_read_error {r r' : Reader} {message : Text} (h : r.read = (.error message, r')) :
    r.body = [] ∧ r.ends = false := by
  match r with
  | [] => cases h
  | .fault _ :: _ => exact ⟨rfl, rfl⟩
  | .bytes _ :: _ => cases h

/-- A chunk is the first part of the body, and what is still to be read has the rest. -/
theorem body_of_read {r r' : Reader} {chunk : Bytes} (h : r.read = (.ok chunk, r')) (hc : chunk ≠ []) :
    r.body = chunk ++ r'.body ∧ r.ends = r'.ends ∧ chunk.length ≤ chunkSize := by
  match r with
  | [] => cases h; exact absurd rfl hc
  | .fault _ :: _ => cases h
  | .bytes [] :: _ => cases h; exact absurd rfl hc
  | .bytes (b :: bs) :: r =>
    simp only [read, Prod.mk.injEq, Except.ok.injEq] at h
    obtain ⟨rfl, rfl⟩ := h
    have hl : ((b :: bs).take chunkSize).length ≤ chunkSize := List.length_take_le _ _
    have hsplit := List.take_append_drop chunkSize (b :: bs)
    cases hd : (b :: bs).drop chunkSize with
    | nil =>
      rw [hd, List.append_nil] at hsplit
      exact ⟨by rw [body, hsplit]; rfl, rfl, hl⟩
    | cons d ds =>
      rw [hd] at hsplit
      refine ⟨?_, rfl, hl⟩
      show (b :: bs) ++ body r = (b :: bs).take chunkSize ++ ((d :: ds) ++ body r)
      rw [← List.append_assoc, hsplit]

end Reader

/-! ## What is pending -/

/-- What is left of the last chunk, if it is being written. -/
def Stage.rest? : Stage → Option Bytes
  | .writing rest => some rest
  | .writeFailed rest _ => some rest
  | _ => none

/-- The bytes that were read and not taken. -/
def Stage.pending (stage : Stage) : Bytes := stage.rest?.getD []

/-- How often the writer was flushed. -/
def Stage.flushes : Stage → Nat
  | .finished => 1
  | .flushFailed _ => 1
  | _ => 0

namespace Copying

variable {ω : Type}

/-- The bytes that the reader still has for the writer. -/
def left (s : Copying ω) : Bytes :=
  match s.stage with
  | .reading | .writing _ | .writeFailed .. => s.reader.body
  | _ => []

/-- Whether the body has come to its end, or will. -/
def ends (s : Copying ω) : Bool :=
  match s.stage with
  | .reading | .writing _ | .writeFailed .. => s.reader.ends
  | .readFailed _ => false
  | _ => true

variable [Writer ω]

/-! ## What holds at every moment -/

/-- What holds at every moment of copying from `r` to `w`. -/
structure Sound (r : Reader) (w : ω) (s : Copying ω) : Prop where
  /-- The writer has taken all of the bytes read, but for those that are pending. -/
  accounted : held s.sink ++ s.stage.pending = held w ++ s.reads.flatten
  bounded : s.stage.pending.length ≤ chunkSize
  /-- What is left of a chunk is left of the last one. -/
  chunk : ∀ rest, s.stage.rest? = some rest → rest ≠ [] ∧ ∃ front piece, s.reads = front ++ [piece ++ rest]
  flushed : flushes s.sink = flushes w + s.stage.flushes
  body : s.reads.flatten ++ s.left = r.body
  ends : s.ends = r.ends

namespace Sound

variable {r : Reader} {w : ω} {s : Copying ω}

theorem start (r : Reader) (w : ω) : Sound r w { reader := r, sink := w } :=
  ⟨rfl, Nat.zero_le _, (fun _ h => by cases h), rfl, rfl, rfl⟩

/-- Before a read, the writer has taken all of the bytes read. -/
theorem read (h : Sound r w s) (hs : s.stage = .reading) : held s.sink = held w ++ s.reads.flatten := by
  have ha := h.accounted
  rw [hs] at ha
  simpa only [Stage.pending, Stage.rest?, Option.getD_none, List.append_nil] using ha

/-- A read keeps the invariant. -/
theorem step_reading (h : Sound r w s) (hs : s.stage = .reading) : Sound r w s.step := by
  have hheld := h.read hs
  obtain ⟨ha, _, _, hf, hb, he⟩ := h
  obtain ⟨reader, sink, reads, stage⟩ := s
  subst hs
  cases hr : reader.read with
  | mk reply reader' =>
    match reply with
    | .error message =>
      obtain ⟨hbody, hends⟩ := Reader.body_of_read_error hr
      simp only [step, hr]
      refine ⟨ha, Nat.zero_le _, (fun _ h => by cases h), hf, ?_, hends.symm.trans he⟩
      rw [← hb, left, left, hbody]
    | .ok [] =>
      obtain ⟨hbody, hends⟩ := Reader.body_of_read_nil hr
      simp only [step, hr]
      refine ⟨ha, Nat.zero_le _, (fun _ h => by cases h), hf, ?_, hends.symm.trans he⟩
      rw [← hb, left, left, hbody]
    | .ok (b :: bs) =>
      obtain ⟨hbody, hends, hl⟩ := Reader.body_of_read hr (List.cons_ne_nil b bs)
      simp only [step, hr]
      refine ⟨?_, hl, ?_, hf, ?_, hends.symm.trans he⟩
      · show held sink ++ (b :: bs) = held w ++ (reads ++ [b :: bs]).flatten
        rw [hheld, List.flatten_concat, List.append_assoc]
      · rintro rest ⟨⟩
        exact ⟨List.cons_ne_nil b bs, reads, [], rfl⟩
      · show (reads ++ [b :: bs]).flatten ++ reader'.body = r.body
        rw [← hb, List.flatten_concat, List.append_assoc, ← hbody, left]

/-- A write keeps the invariant. -/
theorem step_writing {rest : Bytes} (h : Sound r w s) (hs : s.stage = .writing rest) : Sound r w s.step := by
  obtain ⟨ha, hl, hc, hf, hb, he⟩ := h
  obtain ⟨reader, sink, reads, stage⟩ := s
  subst hs
  obtain ⟨hne, front, piece, hreads⟩ := hc rest rfl
  cases hw : write sink rest with
  | mk reply sink' =>
    match reply with
    | .interrupted =>
      obtain ⟨hh, hfl, _⟩ := write_interrupted hw
      simp only [step, hw]
      exact ⟨by rw [hh]; exact ha, hl, hc, by rw [hfl]; exact hf, hb, he⟩
    | .failed message =>
      obtain ⟨hh, hfl⟩ := write_failed hw
      simp only [step, hw]
      exact ⟨by rw [hh]; exact ha, hl, hc, by rw [hfl]; exact hf, hb, he⟩
    | .accepted 0 =>
      obtain ⟨_, hh, hfl, _⟩ := write_accepted hw
      rw [List.take_zero, List.append_nil] at hh
      simp only [step, hw]
      exact ⟨by rw [hh]; exact ha, hl, hc, by rw [hfl]; exact hf, hb, he⟩
    | .accepted (n + 1) =>
      obtain ⟨_, hh, hfl, _⟩ := write_accepted hw
      have hsplit := List.take_append_drop (n + 1) rest
      have ha' : held sink' ++ rest.drop (n + 1) = held w ++ reads.flatten := by
        rw [hh, List.append_assoc, hsplit]; exact ha
      simp only [step, hw]
      by_cases hd : rest.drop (n + 1) = []
      · rw [if_pos hd]
        rw [hd] at ha'
        exact ⟨ha', Nat.zero_le _, (fun _ h => by cases h), by rw [hfl]; exact hf, hb, he⟩
      · rw [if_neg hd]
        refine ⟨ha', ?_, ?_, by rw [hfl]; exact hf, hb, he⟩
        · have hlen : (rest.drop (n + 1)).length ≤ rest.length := by rw [List.length_drop]; omega
          exact Nat.le_trans hlen hl
        · rintro _ ⟨⟩
          exact ⟨hd, front, piece ++ rest.take (n + 1), by rw [hreads, List.append_assoc, hsplit]⟩

/-- The flush keeps the invariant. -/
theorem step_flushing (h : Sound r w s) (hs : s.stage = .flushing) : Sound r w s.step := by
  obtain ⟨ha, hl, hc, hf, hb, he⟩ := h
  obtain ⟨reader, sink, reads, stage⟩ := s
  subst hs
  cases hw : flush sink with
  | mk fault sink' =>
    obtain ⟨hh, hfl⟩ := flush_eq hw
    cases fault with
    | none =>
      simp only [step, hw]
      exact ⟨by rw [hh]; exact ha, hl, (fun _ h => by cases h), by rw [hfl, hf]; rfl, hb, he⟩
    | some message =>
      simp only [step, hw]
      exact ⟨by rw [hh]; exact ha, hl, (fun _ h => by cases h), by rw [hfl, hf]; rfl, hb, he⟩

/-- Every call keeps the invariant. -/
theorem step (h : Sound r w s) : Sound r w s.step := by
  cases hs : s.stage with
  | reading => exact h.step_reading hs
  | writing rest => exact h.step_writing hs
  | flushing => exact h.step_flushing hs
  | finished | readFailed | writeFailed | flushFailed => rw [Copying.step, hs]; exact h

end Sound

/-- Every moment has the invariant. -/
theorem sound_moment (r : Reader) (w : ω) (n : Nat) : Sound r w (moment r w n) := by
  induction n with
  | zero => exact Sound.start r w
  | succ n ih => rw [moment, Function.iterate_succ_apply']; exact ih.step

/-! ## What holds between two calls -/

/-- What holds of copying from `r` to `w` when the calls of `before` were made and those of `later` are to come. -/
structure Between (r : Reader) (w : ω) (before later : List CopyCall) (pending : Bytes) : Prop where
  /-- The writer has taken all of the bytes read, but for those that are pending. -/
  accounted : held (after w (before.filterMap CopyCall.sink?)) ++ pending = held w ++ before.flatMap CopyCall.bytes
  bounded : pending.length ≤ chunkSize
  /-- The bytes read are the first ones of the body. -/
  arrived : before.flatMap CopyCall.bytes <+: r.body
  /-- No bytes are pending when more are read. -/
  read : ∀ reply rest, later = .read reply :: rest → pending = []
  /-- What is written is what is pending. -/
  write : ∀ b rest, later = .sink (.write b) :: rest → b = pending
  /-- The flush is the last call, and comes after the whole body. -/
  flush : ∀ rest, later = .sink .flush :: rest →
    rest = [] ∧ pending = [] ∧ before.flatMap CopyCall.bytes = r.body

/-- What holds in a state holds between the calls that lead to it and those that lead on from it. -/
theorem Sound.between {r : Reader} {w : ω} {s s' : Copying ω} {before later : List CopyCall} (h : Sound r w s)
    (hfirst : Runs { reader := r, sink := w } before s) (hlast : Runs s later s') :
    Between r w before later s.stage.pending := by
  have hsink := hfirst.sink
  have hreads : s.reads.flatten = before.flatMap CopyCall.bytes := hfirst.reads
  constructor
  case accounted =>
    rw [← hsink, ← hreads]
    exact h.accounted
  case bounded => exact h.bounded
  case arrived =>
    rw [← hreads, ← h.body]
    exact List.prefix_append _ _
  case read =>
    rintro reply rest rfl
    cases hlast with
    | cons hcall _ =>
      cases hs : s.stage with
      | reading => rfl
      | writing | flushing | finished | readFailed | writeFailed | flushFailed => simp [call?, hs] at hcall
  case write =>
    rintro b rest rfl
    cases hlast with
    | cons hcall _ =>
      cases hs : s.stage with
      | writing left =>
        simp only [call?, hs, Option.some.injEq, CopyCall.sink.injEq, Call.write.injEq] at hcall
        exact hcall.symm
      | reading | flushing | finished | readFailed | writeFailed | flushFailed => simp [call?, hs] at hcall
  case flush =>
    rintro rest rfl
    cases hlast with
    | cons hcall hrest =>
      cases hs : s.stage with
      | flushing =>
        have hbody := h.body
        rw [left, hs, List.append_nil, hreads] at hbody
        have hend : s.step.call? = none := by
          simp only [Copying.step, hs]
          split <;> rfl
        exact ⟨hrest.eq_nil hend, rfl, hbody⟩
      | reading | writing | finished | readFailed | writeFailed | flushFailed => simp [call?, hs] at hcall

/-- So it is with every two parts of the calls of copying. -/
theorem copyTraced_between {r : Reader} {w : ω} {before later : List CopyCall}
    (h : (copyTraced r w).2 = before ++ later) : ∃ pending, Between r w before later pending := by
  have hrun := (runs_copyTraced r w).1
  rw [h] at hrun
  obtain ⟨s, hfirst, hlast⟩ := hrun.split
  have hsound : Sound r w s := hfirst.iterate ▸ sound_moment r w before.length
  exact ⟨_, hsound.between hfirst hlast⟩

/-! ## What holds at the end -/

/-- What holds when copying broke off: the writer has all of the chunks read, or all but an end of the one whose write
failed; and only a flush that failed was a flush. -/
def Broken (w : ω) (s : Copying ω) : Prop :=
  (held s.sink = held w ++ s.reads.flatten ∨
      ∃ front piece rest fault, s.stage = .writeFailed rest fault ∧ rest ≠ [] ∧ s.reads = front ++ [piece ++ rest] ∧
        held s.sink = held w ++ (front.flatten ++ piece)) ∧
    (flushes s.sink = flushes w ∨ ∃ message, s.stage = .flushFailed message ∧ flushes s.sink = flushes w + 1)

namespace Sound

variable {r : Reader} {w : ω} {s : Copying ω}

/-- Nothing is left to be taken when no chunk is being written. -/
theorem all (h : Sound r w s) (hs : s.stage.rest? = none) : held s.sink = held w ++ s.reads.flatten := by
  have ha := h.accounted
  rwa [Stage.pending, hs, Option.getD_none, List.append_nil] at ha

/-- While a chunk is being written, the writer has the chunks before it and a first part of it. -/
theorem all_but_rest {rest : Bytes} (h : Sound r w s) (hs : s.stage.rest? = some rest) :
    ∃ front piece, s.reads = front ++ [piece ++ rest] ∧ held s.sink = held w ++ (front.flatten ++ piece) := by
  obtain ⟨_, front, piece, hreads⟩ := h.chunk rest hs
  refine ⟨front, piece, hreads, ?_⟩
  have ha := h.accounted
  rw [hreads, List.flatten_concat, Stage.pending, hs, Option.getD_some] at ha
  simp only [← List.append_assoc] at ha ⊢
  exact List.append_cancel_right ha

/-- The writer has a first part of the chunks read. -/
theorem taken (h : Sound r w s) : ∃ taken, taken <+: s.reads.flatten ∧ held s.sink = held w ++ taken := by
  cases hs : s.stage.rest? with
  | none => exact ⟨s.reads.flatten, List.prefix_refl _, h.all hs⟩
  | some rest =>
    obtain ⟨front, piece, hreads, hheld⟩ := h.all_but_rest hs
    refine ⟨front.flatten ++ piece, ⟨rest, ?_⟩, hheld⟩
    rw [hreads, List.flatten_concat, List.append_assoc]

/-- Once the writer was flushed, it has the whole body. -/
theorem flushed_body (h : Sound r w s) (hf : flushes s.sink ≠ flushes w) : held s.sink = held w ++ r.body := by
  have hfl := h.flushed
  have hb := h.body
  rw [left] at hb
  cases hs : s.stage with
  | finished | flushFailed =>
    rw [hs, List.append_nil] at hb
    rw [← hb]
    exact h.all (by rw [hs]; rfl)
  | reading | writing | flushing | readFailed | writeFailed =>
    rw [hs] at hfl
    exact absurd hfl hf

/-- What holds at the end of copying that succeeds. -/
theorem of_ok {n : Nat} (h : Sound r w s) (hr : s.result? = some (.ok n)) :
    held s.sink = held w ++ r.body ∧ n = r.body.length ∧ flushes s.sink = flushes w + 1 ∧ r.ends = true := by
  unfold result? at hr
  cases hs : s.stage with
  | finished =>
    rw [hs] at hr
    cases hr
    have hb := h.body
    have hf := h.flushed
    have he := h.ends
    rw [left, hs, List.append_nil] at hb
    rw [hs] at hf
    rw [Copying.ends, hs] at he
    exact ⟨by rw [h.all (by rw [hs]; rfl), hb], by rw [hb], hf, he.symm⟩
  | reading | writing | flushing | readFailed | writeFailed | flushFailed => rw [hs] at hr; cases hr

/-- What holds at the end of copying that fails. -/
theorem of_error {fault : StreamFault} (h : Sound r w s) (hr : s.result? = some (.error fault)) : Broken w s := by
  unfold result? at hr
  have hf := h.flushed
  cases hs : s.stage with
  | readFailed message =>
    rw [hs] at hf
    exact ⟨.inl (h.all (by rw [hs]; rfl)), .inl hf⟩
  | writeFailed rest fault =>
    rw [hs] at hf
    have hrest : s.stage.rest? = some rest := by rw [hs]; rfl
    obtain ⟨front, piece, hreads, hheld⟩ := h.all_but_rest hrest
    exact ⟨.inr ⟨front, piece, rest, fault, hs, (h.chunk rest hrest).1, hreads, hheld⟩, .inl hf⟩
  | flushFailed message =>
    rw [hs] at hf
    exact ⟨.inl (h.all (by rw [hs]; rfl)), .inr ⟨message, hs, hf⟩⟩
  | reading | writing | flushing | finished => rw [hs] at hr; cases hr

end Sound

end Copying

open Copying

variable {ω : Type} [Writer ω]

/-- Copying that succeeds leaves the whole body in the writer. -/
theorem copyChunked_ok {r : Reader} {w w' : ω} {n : Nat} (h : copyChunked r w = (.ok n, w')) :
    held w' = held w ++ r.body ∧ n = r.body.length ∧ flushes w' = flushes w + 1 ∧ r.ends = true := by
  obtain ⟨m, hr, hs⟩ := copyChunked_moment r w
  rw [h] at hr hs
  subst hs
  exact (sound_moment r w m).of_ok hr

/-- Copying that fails broke off at some moment. -/
theorem copyChunked_error {r : Reader} {w w' : ω} {fault : StreamFault} (h : copyChunked r w = (.error fault, w')) :
    ∃ m, (moment r w m).result? = some (.error fault) ∧ (moment r w m).sink = w' ∧ Broken w (moment r w m) := by
  obtain ⟨m, hr, hs⟩ := copyChunked_moment r w
  rw [h] at hr hs
  exact ⟨m, hr, hs, (sound_moment r w m).of_error hr⟩

/-- **Copying loses, duplicates and reorders nothing.** Between any two of its calls the writer has taken all of the
bytes read but for those of one chunk that are pending, before every read none are pending, and a flush comes after the
whole body; its calls are those of the moments up to the end. A copy that succeeds has given the writer the body and
flushed it once, so the ways in which bodies arrive and writers take them make no difference; one that fails has given
it all it read, up to the write that failed. -/
theorem copyChunked_exact (r : Reader) (w : ω) :
    ((copyTraced r w).1 = copyChunked r w ∧
      ∀ before later, (copyTraced r w).2 = before ++ later → ∃ pending, Between r w before later pending) ∧
    (∀ m, Sound r w (moment r w m) ∧
      ((moment r w m).stage = .reading → held (moment r w m).sink = held w ++ (moment r w m).reads.flatten) ∧
      (flushes (moment r w m).sink ≠ flushes w → held (moment r w m).sink = held w ++ r.body)) ∧
    (∃ m, Runs { reader := r, sink := w } (copyTraced r w).2 (moment r w m) ∧
      (moment r w m).result? = some (copyChunked r w).1 ∧ (moment r w m).sink = (copyChunked r w).2) ∧
    (∀ n w', copyChunked r w = (.ok n, w') →
      held w' = held w ++ r.body ∧ n = r.body.length ∧ flushes w' = flushes w + 1 ∧ r.ends = true) ∧
    (∀ fault w', copyChunked r w = (.error fault, w') →
      ∃ m, (moment r w m).result? = some (.error fault) ∧ (moment r w m).sink = w' ∧ Broken w (moment r w m)) ∧
    (∀ {ω' : Type} [Writer ω'] (r' : Reader) (v : ω') (n n' : Nat) (w' : ω) (v' : ω'), r'.body = r.body →
      copyChunked r w = (.ok n, w') → copyChunked r' v = (.ok n', v') →
      n' = n ∧ ∃ bytes, held w' = held w ++ bytes ∧ held v' = held v ++ bytes) := by
  refine ⟨⟨copyTraced_fst r w, fun _ _ => copyTraced_between⟩, fun m => ?_, ⟨_, runs_copyTraced r w⟩,
    fun n w' h => copyChunked_ok h, fun fault w' h => copyChunked_error h, ?_⟩
  · have hm := sound_moment r w m
    exact ⟨hm, hm.read, hm.flushed_body⟩
  · intro ω' _ r' v n n' w' v' hb hw hv
    obtain ⟨hw', hn, _⟩ := copyChunked_ok hw
    obtain ⟨hv', hn', _⟩ := copyChunked_ok hv
    rw [hb] at hv' hn'
    exact ⟨hn'.trans hn.symm, r.body, hw', hv'⟩

end DocViewer
