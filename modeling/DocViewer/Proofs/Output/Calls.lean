import DocViewer.Output.Copy
import DocViewer.Proofs.Output.Writing
import Mathlib.Logic.Function.Iterate

/-!
# The calls of copying

`copyChunked` reads, writes and flushes in two nested loops. Here it is taken apart in two ways, which come to the same.

- `copyTraced` is `copyChunked` with the calls that it makes, the first one first: each read with what it gave, each
  write and the flush (`copyTraced_fst`).
- `Copying` is the work between two calls: it knows the chunks read so far and what is left to be written of the last
  one. `Copying.call?` is the next call, and `Copying.step` makes it. `Runs` are calls that lead from one state to
  another in this way.

`runs_copyTraced` says that the calls of `copyTraced` lead from the start to an end with the result of `copyChunked`.
-/

namespace DocViewer

open Writer

/-! ## Calls in order -/

/-- A call that copying makes. -/
inductive CopyCall
  /-- A read, with what it gave. -/
  | read (reply : Except Text Bytes)
  | sink (call : Writer.Call)

namespace CopyCall

/-- What the writer sees of a call. -/
def sink? : CopyCall → Option Writer.Call
  | .read _ => none
  | .sink call => some call

/-- The bytes that arrive with a call. -/
def bytes : CopyCall → Bytes
  | .read (.ok b) => b
  | _ => []

end CopyCall

section Traced

variable {ω : Type} [Writer ω]

/-- `writeAll` with its calls. -/
def writeTraced (w : ω) (b : Bytes) : (Except StreamFault Unit × ω) × List Writer.Call :=
  if _nonempty : b = [] then ((.ok (), w), [])
  else
    match h : write w b with
    | (.interrupted, w') => (writeTraced w' b).map id (.write b :: ·)
    | (.failed e, w') => ((.error (.failed e), w'), [.write b])
    | (.accepted 0, w') => ((.error .stalled, w'), [.write b])
    | (.accepted (n + 1), w') => (writeTraced w' (b.drop (n + 1))).map id (.write b :: ·)
termination_by patience w + b.length
decreasing_by
  · have := (write_interrupted h).2.2
    omega
  · have := (write_accepted h).2.2.2
    have := List.length_pos_iff.mpr _nonempty
    simp only [List.length_drop]
    omega

/-- `copyFrom` with its calls. -/
def copyFromTraced (total : Nat) (r : Reader) (w : ω) : (Except StreamFault Nat × ω) × List CopyCall :=
  match _read : r.read with
  | (.error message, _) => ((.error (.failed message), w), [.read (.error message)])
  | (.ok chunk, r') =>
    if _nonempty : chunk = [] then
      match flush w with
      | (none, w) => ((.ok total, w), [.read (.ok []), .sink .flush])
      | (some message, w) => ((.error (.failed message), w), [.read (.ok []), .sink .flush])
    else
      match writeTraced w chunk with
      | ((.ok (), w), calls) =>
        (copyFromTraced (total + chunk.length) r' w).map id (.read (.ok chunk) :: calls.map .sink ++ ·)
      | ((.error fault, w), calls) => ((.error fault, w), .read (.ok chunk) :: calls.map .sink)
termination_by r.weight
decreasing_by exact Reader.weight_read _read _nonempty

/-- `copyChunked` with its calls. -/
def copyTraced (r : Reader) (w : ω) : (Except StreamFault Nat × ω) × List CopyCall := copyFromTraced 0 r w

theorem writeTraced_fst (w : ω) (b : Bytes) : (writeTraced w b).1 = writeAll w b := by
  fun_induction writeTraced w b with
  | case1 w => rw [writeAll, dif_pos rfl]
  | case2 w b hb w₁ hw ih =>
    rw [writeAll, dif_neg hb]
    split <;> simp_all
  | case3 w b hb e w₁ hw =>
    rw [writeAll, dif_neg hb]
    split <;> simp_all
  | case4 w b hb w₁ hw =>
    rw [writeAll, dif_neg hb]
    split <;> simp_all
  | case5 w b hb n w₁ hw ih =>
    rw [writeAll, dif_neg hb]
    split <;> simp_all

theorem copyFromTraced_fst (total : Nat) (r : Reader) (w : ω) : (copyFromTraced total r w).1 = copyFrom total r w := by
  fun_induction copyFromTraced total r w with
  | case1 total r w message r' hr =>
    rw [copyFrom]
    split <;> simp_all
  | case2 total r w r' w₁ hf hr =>
    rw [copyFrom]
    split <;> simp_all
  | case3 total r w r' message w₁ hf hr =>
    rw [copyFrom]
    split <;> simp_all
  | case4 total r w chunk r' hr hc w₁ calls hw ih =>
    have hall : writeAll w chunk = (.ok (), w₁) := by rw [← writeTraced_fst, hw]
    rw [copyFrom]
    split <;> simp_all
  | case5 total r w chunk r' hr hc fault w₁ calls hw =>
    have hall : writeAll w chunk = (.error fault, w₁) := by rw [← writeTraced_fst, hw]
    rw [copyFrom]
    split <;> simp_all

/-- But for the calls, nothing is new. -/
theorem copyTraced_fst (r : Reader) (w : ω) : (copyTraced r w).1 = copyChunked r w := copyFromTraced_fst 0 r w

end Traced

/-! ## Between two calls -/

/-- Where copying stands. -/
inductive Stage
  /-- The next call reads a chunk. -/
  | reading
  /-- The next call writes what is left of the last chunk. -/
  | writing (rest : Bytes)
  /-- The body has ended, and the next call flushes the writer. -/
  | flushing
  | finished
  | readFailed (message : Text)
  /-- The writer failed with this left of the last chunk. -/
  | writeFailed (rest : Bytes) (fault : StreamFault)
  | flushFailed (message : Text)

structure Copying (ω : Type) where
  reader : Reader
  sink : ω
  /-- The chunks read so far, the first one first. -/
  reads : List Bytes := []
  stage : Stage := .reading

namespace Copying

variable {ω : Type}

/-- What copying gives, once it has ended. -/
def result? (s : Copying ω) : Option (Except StreamFault Nat) :=
  match s.stage with
  | .finished => some (.ok s.reads.flatten.length)
  | .readFailed message => some (.error (.failed message))
  | .writeFailed _ fault => some (.error fault)
  | .flushFailed message => some (.error (.failed message))
  | _ => none

/-- The next call; there is none at an end. -/
def call? (s : Copying ω) : Option CopyCall :=
  match s.stage with
  | .reading => some (.read s.reader.read.1)
  | .writing rest => some (.sink (.write rest))
  | .flushing => some (.sink .flush)
  | _ => none

variable [Writer ω]

/-- The next call of the reader or the writer; an end stays as it is. -/
def step (s : Copying ω) : Copying ω :=
  match s.stage with
  | .reading =>
    match s.reader.read with
    | (.error message, reader) => { s with reader, stage := .readFailed message }
    | (.ok [], reader) => { s with reader, stage := .flushing }
    | (.ok (b :: bs), reader) => { s with reader, reads := s.reads ++ [b :: bs], stage := .writing (b :: bs) }
  | .writing rest =>
    match write s.sink rest with
    | (.interrupted, sink) => { s with sink }
    | (.failed message, sink) => { s with sink, stage := .writeFailed rest (.failed message) }
    | (.accepted 0, sink) => { s with sink, stage := .writeFailed rest .stalled }
    | (.accepted (n + 1), sink) =>
      { s with sink, stage := if rest.drop (n + 1) = [] then .reading else .writing (rest.drop (n + 1)) }
  | .flushing =>
    match flush s.sink with
    | (none, sink) => { s with sink, stage := .finished }
    | (some message, sink) => { s with sink, stage := .flushFailed message }
  | _ => s

/-- Copying after so many calls. -/
def moment (r : Reader) (w : ω) (n : Nat) : Copying ω := step^[n] { reader := r, sink := w }

/-- The writer has seen the call, if it was one of its own. -/
theorem step_sink (s : Copying ω) : s.step.sink = after s.sink (s.call?.bind CopyCall.sink?).toList := by
  cases hs : s.stage with
  | reading =>
    simp only [step, call?, hs]
    split <;> rfl
  | writing rest =>
    have hcall : s.call? = some (.sink (.write rest)) := by rw [call?, hs]
    rw [hcall]
    show _ = (write s.sink rest).2
    simp only [step, hs]
    split <;> (rename_i hw; rw [hw])
  | flushing =>
    have hcall : s.call? = some (.sink .flush) := by rw [call?, hs]
    rw [hcall]
    show _ = (flush s.sink).2
    simp only [step, hs]
    split <;> (rename_i hw; rw [hw])
  | finished | readFailed | writeFailed | flushFailed =>
    rw [step, call?, hs]
    rfl

/-- The chunks grow by what arrives with the call. -/
theorem step_reads {s : Copying ω} {c : CopyCall} (h : s.call? = some c) :
    s.step.reads.flatten = s.reads.flatten ++ c.bytes := by
  cases hs : s.stage with
  | reading =>
    simp only [call?, hs, Option.some.injEq] at h
    subst h
    simp only [step, hs]
    split <;> (rename_i hr; simp [hr, CopyCall.bytes])
  | writing rest =>
    simp only [call?, hs, Option.some.injEq] at h
    subst h
    simp only [step, hs]
    split <;> exact (List.append_nil _).symm
  | flushing =>
    simp only [call?, hs, Option.some.injEq] at h
    subst h
    simp only [step, hs]
    split <;> exact (List.append_nil _).symm
  | finished | readFailed | writeFailed | flushFailed =>
    rw [call?, hs] at h
    cases h

/-- Up to every moment the writer has seen single calls and no other. -/
theorem moment_calls (r : Reader) (w : ω) (n : Nat) : ∃ calls, (moment r w n).sink = after w calls := by
  induction n with
  | zero => exact ⟨[], rfl⟩
  | succ n ih =>
    obtain ⟨calls, hc⟩ := ih
    refine ⟨calls ++ ((moment r w n).call?.bind CopyCall.sink?).toList, ?_⟩
    rw [after_append, ← hc, moment, Function.iterate_succ_apply']
    exact step_sink _

/-! ## Runs -/

/-- The calls lead from one state to the other. -/
inductive Runs : Copying ω → List CopyCall → Copying ω → Prop
  | nil (s : Copying ω) : Runs s [] s
  | cons {s s' : Copying ω} {c : CopyCall} {cs : List CopyCall} (h : s.call? = some c) (hrest : Runs s.step cs s') :
    Runs s (c :: cs) s'

namespace Runs

variable {s s' s'' : Copying ω} {cs ds : List CopyCall}

theorem append (h : Runs s cs s') (h' : Runs s' ds s'') : Runs s (cs ++ ds) s'' := by
  induction h with
  | nil s => exact h'
  | cons hc _ ih => exact .cons hc (ih h')

/-- A run can be parted between any two calls. -/
theorem split (h : Runs s (cs ++ ds) s'') : ∃ s', Runs s cs s' ∧ Runs s' ds s'' := by
  induction cs generalizing s with
  | nil => exact ⟨s, .nil s, h⟩
  | cons c cs ih =>
    cases h with
    | cons hc hrest =>
      obtain ⟨s', hfirst, hlast⟩ := ih hrest
      exact ⟨s', .cons hc hfirst, hlast⟩

/-- A run is so many steps. -/
theorem iterate (h : Runs s cs s') : step^[cs.length] s = s' := by
  induction h with
  | nil s => rfl
  | cons _ _ ih => rw [List.length_cons, Function.iterate_succ_apply, ih]

theorem sink (h : Runs s cs s') : s'.sink = after s.sink (cs.filterMap CopyCall.sink?) := by
  induction h with
  | nil s => rfl
  | @cons s s' c cs hc _ ih =>
    rw [ih, step_sink, hc, ← after_append]
    cases c <;> rfl

theorem reads (h : Runs s cs s') : s'.reads.flatten = s.reads.flatten ++ cs.flatMap CopyCall.bytes := by
  induction h with
  | nil s => exact (List.append_nil _).symm
  | cons hc _ ih => rw [ih, step_reads hc, List.append_assoc, List.flatMap_cons]

/-- At an end there is nothing left to call. -/
theorem eq_nil (h : Runs s cs s') (hend : s.call? = none) : cs = [] := by
  cases h with
  | nil => rfl
  | cons hc _ =>
    rw [hend] at hc
    cases hc

end Runs

/-! ## The calls of copying are a run -/

/-- Where copying stands when the writes of a chunk have ended in this way. -/
def WritesEnd : Except StreamFault Unit → Stage → Prop
  | .ok (), stage => stage = .reading
  | .error fault, stage => ∃ rest, stage = .writeFailed rest fault

/-- The writes of a chunk lead to the next read, or to the one that fails. -/
theorem runs_writeTraced {b : Bytes} (hb : b ≠ []) (r : Reader) (w : ω) (reads : List Bytes) :
    ∃ stage, WritesEnd (writeTraced w b).1.1 stage ∧
      Runs ⟨r, w, reads, .writing b⟩ ((writeTraced w b).2.map .sink) ⟨r, (writeTraced w b).1.2, reads, stage⟩ := by
  fun_induction writeTraced w b with
  | case1 => exact absurd rfl hb
  | case2 w b _ w₁ hw ih =>
    obtain ⟨stage, hend, hrun⟩ := ih hb
    refine ⟨stage, hend, .cons rfl ?_⟩
    simp only [step, hw]
    exact hrun
  | case3 w b _ e w₁ hw =>
    refine ⟨.writeFailed b (.failed e), ⟨b, rfl⟩, .cons rfl ?_⟩
    simp only [step, hw]
    exact .nil _
  | case4 w b _ w₁ hw =>
    refine ⟨.writeFailed b .stalled, ⟨b, rfl⟩, .cons rfl ?_⟩
    simp only [step, hw]
    exact .nil _
  | case5 w b _ n w₁ hw ih =>
    by_cases hd : b.drop (n + 1) = []
    · have hnone : writeTraced w₁ (b.drop (n + 1)) = ((.ok (), w₁), []) := by rw [hd, writeTraced, dif_pos rfl]
      rw [hnone]
      refine ⟨.reading, rfl, .cons rfl ?_⟩
      simp only [step, hw, if_pos hd]
      exact .nil _
    · obtain ⟨stage, hend, hrun⟩ := ih hd
      refine ⟨stage, hend, .cons rfl ?_⟩
      simp only [step, hw, if_neg hd]
      exact hrun

/-- From any state between two chunks, the calls of `copyFromTraced` lead to the end that it gives. -/
theorem runs_copyFromTraced (r : Reader) (w : ω) (reads : List Bytes) :
    ∃ s, Runs ⟨r, w, reads, .reading⟩ (copyFromTraced reads.flatten.length r w).2 s ∧
      s.result? = some (copyFromTraced reads.flatten.length r w).1.1 ∧
      s.sink = (copyFromTraced reads.flatten.length r w).1.2 := by
  generalize ht : reads.flatten.length = total
  fun_induction copyFromTraced total r w generalizing reads with
  | case1 total r w message r' hr =>
    refine ⟨_, .cons (by rw [call?, hr]) (.nil _), ?_⟩
    simp only [step, hr, result?, and_self]
  | case2 total r w r' w₁ hf hr =>
    refine ⟨_, .cons (by rw [call?, hr]) (.cons (by simp only [step, hr, call?]) (.nil _)), ?_⟩
    simp only [step, hr, hf, result?, ht, and_self]
  | case3 total r w r' message w₁ hf hr =>
    refine ⟨_, .cons (by rw [call?, hr]) (.cons (by simp only [step, hr, call?]) (.nil _)), ?_⟩
    simp only [step, hr, hf, result?, and_self]
  | case4 total r w chunk r' hr hc w₁ calls hw ih =>
    obtain ⟨b, bs, rfl⟩ := List.exists_cons_of_ne_nil hc
    obtain ⟨s, hrun, hend⟩ := ih (reads ++ [b :: bs]) (by simp [← ht])
    have hwrites := runs_writeTraced hc r' w (reads ++ [b :: bs])
    rw [hw] at hwrites
    obtain ⟨_, rfl, hwrites⟩ := hwrites
    refine ⟨s, .cons (by rw [call?, hr]) ?_, hend⟩
    simp only [step, hr]
    exact hwrites.append hrun
  | case5 total r w chunk r' hr hc fault w₁ calls hw =>
    obtain ⟨b, bs, rfl⟩ := List.exists_cons_of_ne_nil hc
    have hwrites := runs_writeTraced hc r' w (reads ++ [b :: bs])
    rw [hw] at hwrites
    obtain ⟨_, ⟨rest, rfl⟩, hwrites⟩ := hwrites
    refine ⟨⟨r', w₁, reads ++ [b :: bs], .writeFailed rest fault⟩, .cons (by rw [call?, hr]) ?_, rfl, rfl⟩
    simpa only [step, hr] using hwrites

/-- The calls of copying are those of the moments up to the end, which has the result of copying and its writer. -/
theorem runs_copyTraced (r : Reader) (w : ω) :
    Runs { reader := r, sink := w } (copyTraced r w).2 (moment r w (copyTraced r w).2.length) ∧
      (moment r w (copyTraced r w).2.length).result? = some (copyChunked r w).1 ∧
      (moment r w (copyTraced r w).2.length).sink = (copyChunked r w).2 := by
  obtain ⟨s, hrun, hend⟩ := runs_copyFromTraced r w []
  have hmoment : moment r w (copyTraced r w).2.length = s := hrun.iterate
  rw [hmoment, ← copyTraced_fst]
  exact ⟨hrun, hend⟩

/-- Copying ends at some moment, with its result and its writer. -/
theorem copyChunked_moment (r : Reader) (w : ω) :
    ∃ n, (moment r w n).result? = some (copyChunked r w).1 ∧ (moment r w n).sink = (copyChunked r w).2 :=
  ⟨_, (runs_copyTraced r w).2⟩

/-- Copying leaves its writer where some single calls lead it. -/
theorem copyChunked_calls (r : Reader) (w : ω) : ∃ calls, (copyChunked r w).2 = after w calls := by
  obtain ⟨m, -, hsink⟩ := copyChunked_moment r w
  rw [← hsink]
  exact moment_calls r w m

end Copying

end DocViewer
