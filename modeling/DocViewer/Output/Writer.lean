import DocViewer.Text.Basic

/-!
# Writers

A writer takes bytes. One call of `write` takes some first part of them, is interrupted, or fails; `writeAll` calls it
until all are taken. A writer knows the bytes it holds, and how often it was flushed. It can be interrupted only
finitely often (`patience`), so `writeAll` ends.
-/

namespace DocViewer

/-- The answer to one call. -/
inductive WriteReply
  /-- The first so many bytes were taken. -/
  | accepted (count : Nat)
  /-- Nothing was taken, and the call may be made again. -/
  | interrupted
  | failed (message : Text)
  deriving DecidableEq

/-- Why a stream broke off. -/
inductive StreamFault
  /-- The writer took none of the bytes it was given. -/
  | stalled
  /-- A line was no text. -/
  | notText
  | failed (message : Text)
  deriving DecidableEq

def StreamFault.message : StreamFault → Text
  | .stalled => "failed to write whole buffer".toList
  | .notText => "stream did not contain valid UTF-8".toList
  | .failed message => message

class Writer (ω : Type) where
  write : ω → Bytes → WriteReply × ω
  /-- Nothing, or why it failed. -/
  flush : ω → Option Text × ω
  /-- The bytes taken so far. -/
  held : ω → Bytes
  /-- The calls of `flush` so far, those that failed too. -/
  flushes : ω → Nat
  /-- A bound on the interruptions to come. -/
  patience : ω → Nat
  write_accepted {w w' : ω} {b : Bytes} {n : Nat} : write w b = (.accepted n, w') →
    n ≤ b.length ∧ held w' = held w ++ b.take n ∧ flushes w' = flushes w ∧ patience w' ≤ patience w
  write_interrupted {w w' : ω} {b : Bytes} : write w b = (.interrupted, w') →
    held w' = held w ∧ flushes w' = flushes w ∧ patience w' < patience w
  write_failed {w w' : ω} {b : Bytes} {e : Text} : write w b = (.failed e, w') →
    held w' = held w ∧ flushes w' = flushes w
  flush_eq {w w' : ω} {e : Option Text} : flush w = (e, w') → held w' = held w ∧ flushes w' = flushes w + 1

/-- Writes until all of `b` is taken. -/
def writeAll {ω : Type} [Writer ω] (w : ω) (b : Bytes) : Except StreamFault Unit × ω :=
  if _nonempty : b = [] then (.ok (), w)
  else
    match h : Writer.write w b with
    | (.interrupted, w') => writeAll w' b
    | (.failed e, w') => (.error (.failed e), w')
    | (.accepted 0, w') => (.error .stalled, w')
    | (.accepted (n + 1), w') => writeAll w' (b.drop (n + 1))
termination_by Writer.patience w + b.length
decreasing_by
  · have := (Writer.write_interrupted h).2.2
    omega
  · have := (Writer.write_accepted h).2.2.2
    have := List.length_pos_iff.mpr _nonempty
    simp only [List.length_drop]
    omega

/-- Writes chunks one after another, up to one that cannot be written. -/
def writeEach {ω : Type} [Writer ω] (w : ω) : List Bytes → Except StreamFault Unit × ω
  | [] => (.ok (), w)
  | b :: chunks =>
    match writeAll w b with
    | (.ok (), w) => writeEach w chunks
    | (.error fault, w) => (.error fault, w)

end DocViewer
