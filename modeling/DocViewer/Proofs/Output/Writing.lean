import DocViewer.Output.Writer

/-!
# What writing leaves in a writer

- A writer meets the world in single calls (`Writer.Call`); `Writer.after` is the writer after some of them, whatever it
  answered. It never loses what it holds (`Writer.held_after`).
- `writeAll` makes such calls and no other (`writeAll_calls`). If it succeeds, the writer took all of the bytes
  (`writeAll_ok`); if not, it took a first part and some bytes are left (`writeAll_error`). It never flushes.
- `writeEach` writes one chunk after another in this way (`writeEach_ok`, `writeEach_taken`).
-/

namespace DocViewer

variable {ω : Type} [Writer ω]

/-! ## Single calls -/

namespace Writer

/-- One call of a writer. -/
inductive Call
  | write (b : Bytes)
  | flush

/-- The writer after one call, whatever it answered. -/
def call (w : ω) : Call → ω
  | .write b => (write w b).2
  | .flush => (flush w).2

/-- The writer after some calls, the first one first. -/
def after (w : ω) (calls : List Call) : ω := calls.foldl call w

theorem after_append (w : ω) (calls more : List Call) : after w (calls ++ more) = after (after w calls) more :=
  List.foldl_append

/-- A call of `write` takes a first part of the bytes. -/
theorem held_write (w : ω) (b : Bytes) : ∃ piece, piece <+: b ∧ held (write w b).2 = held w ++ piece := by
  cases h : write w b with
  | mk reply w' =>
    cases reply with
    | accepted n => exact ⟨b.take n, List.take_prefix n b, (write_accepted h).2.1⟩
    | interrupted => exact ⟨[], List.nil_prefix, by rw [(write_interrupted h).1, List.append_nil]⟩
    | failed e => exact ⟨[], List.nil_prefix, by rw [(write_failed h).1, List.append_nil]⟩

/-- No call loses what the writer holds. -/
theorem held_call (w : ω) (c : Call) : held w <+: held (call w c) := by
  cases c with
  | write b =>
    obtain ⟨piece, _, h⟩ := held_write w b
    exact ⟨piece, h.symm⟩
  | flush =>
    have h : held (flush w).2 = held w := (flush_eq rfl).1
    exact ⟨[], by rw [call, h, List.append_nil]⟩

theorem held_after (w : ω) (calls : List Call) : held w <+: held (after w calls) := by
  induction calls generalizing w with
  | nil => exact List.prefix_refl _
  | cons c calls ih => exact (held_call w c).trans (ih (call w c))

end Writer

open Writer

/-! ## Writing all of the bytes -/

/-- Writing all of the bytes makes single calls and no other. -/
theorem writeAll_calls (w : ω) (b : Bytes) : ∃ calls, (writeAll w b).2 = after w calls := by
  fun_induction writeAll w b with
  | case1 w => exact ⟨[], rfl⟩
  | case2 w b _ w' h ih =>
    obtain ⟨calls, hc⟩ := ih
    exact ⟨.write b :: calls, by rw [hc, after, after, List.foldl_cons, call, h]⟩
  | case3 w b _ e w' h => exact ⟨[.write b], by rw [after, List.foldl_cons, call, h]; rfl⟩
  | case4 w b _ w' h => exact ⟨[.write b], by rw [after, List.foldl_cons, call, h]; rfl⟩
  | case5 w b _ n w' h ih =>
    obtain ⟨calls, hc⟩ := ih
    exact ⟨.write b :: calls, by rw [hc, after, after, List.foldl_cons, call, h]⟩

/-- Writing that succeeds leaves all of the bytes in the writer. -/
theorem writeAll_ok {w w' : ω} {b : Bytes} (h : writeAll w b = (.ok (), w')) :
    held w' = held w ++ b ∧ flushes w' = flushes w := by
  fun_induction writeAll w b with
  | case1 w =>
    cases h
    exact ⟨(List.append_nil _).symm, rfl⟩
  | case2 w b _ w₁ hw ih =>
    obtain ⟨hh, hf, _⟩ := write_interrupted hw
    rw [← hh, ← hf]
    exact ih h
  | case3 => cases h
  | case4 => cases h
  | case5 w b _ n w₁ hw ih =>
    obtain ⟨_, hh, hf, _⟩ := write_accepted hw
    obtain ⟨hh', hf'⟩ := ih h
    refine ⟨?_, hf'.trans hf⟩
    rw [hh', hh, List.append_assoc, List.take_append_drop]

/-- Writing that fails leaves a first part of the bytes in the writer, and not all of them. -/
theorem writeAll_error {w w' : ω} {b : Bytes} {fault : StreamFault} (h : writeAll w b = (.error fault, w')) :
    ∃ piece rest, b = piece ++ rest ∧ rest ≠ [] ∧ held w' = held w ++ piece ∧ flushes w' = flushes w := by
  fun_induction writeAll w b with
  | case1 => cases h
  | case2 w b _ w₁ hw ih =>
    obtain ⟨hh, hf, _⟩ := write_interrupted hw
    rw [← hh, ← hf]
    exact ih h
  | case3 w b hb e w₁ hw =>
    cases h
    obtain ⟨hh, hf⟩ := write_failed hw
    exact ⟨[], b, rfl, hb, by rw [hh, List.append_nil], hf⟩
  | case4 w b hb w₁ hw =>
    cases h
    obtain ⟨_, hh, hf, _⟩ := write_accepted hw
    exact ⟨[], b, rfl, hb, hh, hf⟩
  | case5 w b _ n w₁ hw ih =>
    obtain ⟨_, hh, hf, _⟩ := write_accepted hw
    obtain ⟨piece, rest, hb, hr, hh', hf'⟩ := ih h
    refine ⟨b.take (n + 1) ++ piece, rest, ?_, hr, ?_, hf'.trans hf⟩
    · rw [List.append_assoc, ← hb, List.take_append_drop]
    · rw [hh', hh, List.append_assoc]

/-! ## Writing chunks -/

/-- Writing chunks makes single calls and no other. -/
theorem writeEach_calls (w : ω) (chunks : List Bytes) : ∃ calls, (writeEach w chunks).2 = after w calls := by
  induction chunks generalizing w with
  | nil => exact ⟨[], rfl⟩
  | cons b chunks ih =>
    obtain ⟨calls, hc⟩ := writeAll_calls w b
    cases h : writeAll w b with
    | mk result w' =>
      rw [h] at hc
      cases result with
      | ok _ =>
        obtain ⟨more, hm⟩ := ih w'
        refine ⟨calls ++ more, ?_⟩
        rw [after_append, ← hc, ← hm, writeEach, h]
      | error fault => exact ⟨calls, by rw [writeEach, h]; exact hc⟩

/-- Chunks that were all written are in the writer as one, however they are cut. -/
theorem writeEach_ok {w w' : ω} {chunks : List Bytes} (h : writeEach w chunks = (.ok (), w')) :
    held w' = held w ++ chunks.flatten := by
  induction chunks generalizing w with
  | nil =>
    cases h
    exact (List.append_nil _).symm
  | cons b chunks ih =>
    rw [writeEach] at h
    cases hw : writeAll w b with
    | mk result w₁ =>
      rw [hw] at h
      cases result with
      | ok _ => rw [ih h, (writeAll_ok hw).1, List.append_assoc, List.flatten_cons]
      | error fault => cases h

/-- Of chunks that were not all written, a first part is in the writer. -/
theorem writeEach_taken (w : ω) (chunks : List Bytes) :
    ∃ taken, taken <+: chunks.flatten ∧ held (writeEach w chunks).2 = held w ++ taken := by
  induction chunks generalizing w with
  | nil => exact ⟨[], List.nil_prefix, (List.append_nil _).symm⟩
  | cons b chunks ih =>
    rw [writeEach]
    cases hw : writeAll w b with
    | mk result w₁ =>
      cases result with
      | ok _ =>
        obtain ⟨taken, hfront, hheld⟩ := ih w₁
        refine ⟨b ++ taken, (List.prefix_append_right_inj b).mpr hfront, ?_⟩
        rw [hheld, (writeAll_ok hw).1, List.append_assoc]
      | error fault =>
        obtain ⟨piece, rest, hb, -, hheld, -⟩ := writeAll_error hw
        refine ⟨piece, ⟨rest ++ chunks.flatten, ?_⟩, hheld⟩
        rw [List.flatten_cons, hb, List.append_assoc]

end DocViewer
