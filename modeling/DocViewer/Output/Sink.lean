import DocViewer.Output.Writer

/-!
# Sinks

A sink is a writer whose behaviour is laid down: the answers to its first calls, then how many bytes it takes at once,
how many it can still hold, and which flushes fail. It records every call that took something.
-/

namespace DocViewer

/-- A laid down answer. -/
inductive SinkStep
  /-- At most so many bytes are taken. -/
  | upTo (limit : Nat)
  | interrupt
  | fail (message : Text)

structure Sink where
  /-- The answers to the next calls. -/
  script : List SinkStep
  /-- The most bytes that a call takes when the script has ended. -/
  maxWrite : Option Nat
  /-- How many bytes it can still hold. -/
  room : Option Nat
  /-- Why the flush after so many others fails. -/
  flushFault : Nat → Option Text
  /-- What each call took, the last one first. -/
  writes : List Bytes
  flushCount : Nat

namespace Sink

/-- Takes whatever it is given. -/
def unlimited : Sink := ⟨[], none, none, fun _ => none, [], 0⟩

/-- The bytes taken so far. -/
def data (s : Sink) : Bytes := s.writes.reverse.flatten

/-- At most so many of the bytes. -/
def cut (limit : Option Nat) (b : Bytes) : Bytes := match limit with
  | none => b
  | some n => b.take n

/-- Takes at most `limit` bytes, and no more than there is room for. -/
def accept (s : Sink) (limit : Option Nat) (b : Bytes) : WriteReply × Sink :=
  if s.room = some 0 ∧ b ≠ [] then (.failed "sink full".toList, s)
  else
    let piece := cut s.room (cut limit b)
    (.accepted piece.length, { s with room := s.room.map (· - piece.length), writes := piece :: s.writes })

def write (s : Sink) (b : Bytes) : WriteReply × Sink :=
  match s.script with
  | [] => s.accept s.maxWrite b
  | .upTo n :: script => { s with script }.accept (some n) b
  | .interrupt :: script => (.interrupted, { s with script })
  | .fail e :: script => (.failed e, { s with script })

def flush (s : Sink) : Option Text × Sink := (s.flushFault s.flushCount, { s with flushCount := s.flushCount + 1 })

theorem prefix_cut (limit : Option Nat) (b : Bytes) : cut limit b <+: b := by
  cases limit with
  | none => exact List.prefix_refl b
  | some n => exact List.take_prefix n b

theorem data_cons (s : Sink) (b : Bytes) (room : Option Nat) :
    { s with room, writes := b :: s.writes }.data = s.data ++ b := by simp [data]

theorem accept_accepted {s s' : Sink} {limit : Option Nat} {b : Bytes} {n : Nat}
    (h : s.accept limit b = (.accepted n, s')) :
    n ≤ b.length ∧ s'.data = s.data ++ b.take n ∧ s'.flushCount = s.flushCount ∧ s'.script = s.script := by
  rw [accept] at h
  split at h
  · simp at h
  · simp only [Prod.mk.injEq, WriteReply.accepted.injEq] at h
    obtain ⟨rfl, rfl⟩ := h
    have taken : cut s.room (cut limit b) <+: b := (prefix_cut ..).trans (prefix_cut ..)
    exact ⟨taken.length_le, by rw [data_cons, ← List.prefix_iff_eq_take.mp taken], rfl, rfl⟩

theorem accept_ne_interrupted {s s' : Sink} {limit : Option Nat} {b : Bytes} :
    s.accept limit b ≠ (.interrupted, s') := by
  rw [accept]
  split <;> simp

theorem accept_failed {s s' : Sink} {limit : Option Nat} {b : Bytes} {e : Text}
    (h : s.accept limit b = (.failed e, s')) : s' = s := by
  rw [accept] at h
  split at h <;> simp at h
  exact h.2.symm

instance : Writer Sink where
  write := write
  flush := flush
  held := data
  flushes := flushCount
  patience s := s.script.length
  write_accepted {s s' b n} h := by
    rw [write] at h
    split at h
    · have := accept_accepted h
      exact ⟨this.1, this.2.1, this.2.2.1, Nat.le_of_eq (congrArg List.length this.2.2.2)⟩
    · have := accept_accepted h
      exact ⟨this.1, this.2.1, this.2.2.1, by rw [this.2.2.2]; simp [*]⟩
    · simp at h
    · simp at h
  write_interrupted {s s' b} h := by
    rw [write] at h
    split at h
    · exact absurd h accept_ne_interrupted
    · exact absurd h accept_ne_interrupted
    · simp only [Prod.mk.injEq, true_and] at h
      subst h
      simp [data, *]
    · simp at h
  write_failed {s s' b e} h := by
    rw [write] at h
    split at h
    · rw [accept_failed h]; exact ⟨rfl, rfl⟩
    · rw [accept_failed h]; exact ⟨rfl, rfl⟩
    · simp at h
    · simp only [Prod.mk.injEq] at h
      obtain ⟨_, rfl⟩ := h
      exact ⟨rfl, rfl⟩
  flush_eq {s s' e} h := by
    simp only [flush, Prod.mk.injEq] at h
    obtain ⟨_, rfl⟩ := h
    exact ⟨rfl, rfl⟩

end Sink

end DocViewer
