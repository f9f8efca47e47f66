import DocViewer.Output.Writer

/-!
# Copying a body

The body of a web page is read in chunks of at most 8192 bytes, and each chunk is written before the next is read. A
read of no bytes is the end of the body; then the writer is flushed.
-/

namespace DocViewer

/-- The most bytes that one read gives. -/
def chunkSize : Nat := 8192

/-- A part of a body. -/
inductive ReadStep
  /-- Bytes that have arrived. None of them is the end of the body. -/
  | bytes (b : Bytes)
  /-- The read fails. -/
  | fault (message : Text)
  deriving DecidableEq

/-- What is still to be read; after the last step the body has ended. -/
abbrev Reader := List ReadStep

namespace Reader

/-- One read, which gives at most one chunk of the step at hand. -/
def read : Reader → Except Text Bytes × Reader
  | [] => (.ok [], [])
  | .fault message :: r => (.error message, r)
  | .bytes b :: r =>
    let rest := b.drop chunkSize
    (.ok (b.take chunkSize), if rest.isEmpty then r else .bytes rest :: r)

def weight : Reader → Nat
  | [] => 0
  | .fault _ :: r => weight r + 1
  | .bytes b :: r => weight r + b.length + 1

theorem weight_read {r r' : Reader} {b : Bytes} (h : r.read = (.ok b, r')) (hb : b ≠ []) : r'.weight < r.weight := by
  match r with
  | [] => simp only [read, Prod.mk.injEq, Except.ok.injEq] at h; exact absurd h.1.symm hb
  | .fault _ :: r => simp [read] at h
  | .bytes c :: r =>
    simp only [read, Prod.mk.injEq, Except.ok.injEq] at h
    obtain ⟨rfl, rfl⟩ := h
    have pos : 0 < c.length := List.length_pos_iff.mpr fun hc => hb (by simp [hc])
    split
    · simp only [weight]; omega
    · simp only [weight, List.length_drop, chunkSize]; omega

end Reader

/-- `copyChunked` with the number of bytes copied so far, which has no bound here; a count of 64 bits is the same number
for every body of fewer than 2 ^ 64 bytes. -/
def copyFrom {ω : Type} [Writer ω] (total : Nat) (r : Reader) (w : ω) : Except StreamFault Nat × ω :=
  match _read : r.read with
  | (.error message, _) => (.error (.failed message), w)
  | (.ok chunk, r') =>
    if _nonempty : chunk = [] then
      match Writer.flush w with
      | (none, w) => (.ok total, w)
      | (some message, w) => (.error (.failed message), w)
    else
      match writeAll w chunk with
      | (.ok (), w) => copyFrom (total + chunk.length) r' w
      | (.error fault, w) => (.error fault, w)
termination_by r.weight
decreasing_by exact Reader.weight_read _read _nonempty

/-- Copies a body to a writer, and gives the number of bytes copied. -/
def copyChunked {ω : Type} [Writer ω] (r : Reader) (w : ω) : Except StreamFault Nat × ω := copyFrom 0 r w

end DocViewer
