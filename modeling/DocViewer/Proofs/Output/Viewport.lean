import DocViewer.Proofs.Html.TitleElement
import DocViewer.Proofs.Output.Copying

/-!
# What a viewport shows

- A whole page that is shown is in the writer, which was flushed once (`showPage_ok`); of one that cannot be shown the
  writer has a first part (`showPage_error`).
- A page that arrives is searched piece by piece, and only until there is a title. `Arriving.Agrees` says that this
  comes to the same as reading the title off all of the bytes at once: every search keeps it (`Arriving.sniff_agrees`),
  so every call does, and every run of calls (`Arriving.after_agrees`). `title_of_stream` says what this means.
-/

namespace DocViewer

open Writer

/-! ## Whole pages -/

section Whole

variable {ω : Type} [Writer ω] {v v' : Viewport ω} {page : Text}

/-- Showing a whole page gives its title, whether or not it can be written. -/
theorem title_showPage (v : Viewport ω) (page : Text) : (v.showPage page).2.title = Html.title? page := by
  simp only [Viewport.showPage]
  split
  · rfl
  · split <;> rfl

/-- A page that is shown was written as a whole, and the writer was flushed once. -/
theorem showPage_ok (h : v.showPage page = (.ok (), v')) :
    held v'.sink = held v.sink ++ encode page ∧ flushes v'.sink = flushes v.sink + 1 := by
  simp only [Viewport.showPage] at h
  split at h
  · cases h
  · rename_i sink hw
    obtain ⟨hheld, hflushes⟩ := writeAll_ok hw
    split at h
    · rename_i hf
      cases h
      obtain ⟨hheld', hflushes'⟩ := flush_eq hf
      exact ⟨hheld'.trans hheld, by rw [hflushes', hflushes]⟩
    · cases h

/-- Of a page that cannot be shown, the writer has a first part. -/
theorem showPage_error {fault : StreamFault} (h : v.showPage page = (.error fault, v')) :
    ∃ taken, taken <+: encode page ∧ held v'.sink = held v.sink ++ taken := by
  simp only [Viewport.showPage] at h
  split at h
  · rename_i hw
    cases h
    obtain ⟨taken, rest, hb, _, hheld, _⟩ := writeAll_error hw
    exact ⟨taken, ⟨rest, hb.symm⟩, hheld⟩
  · rename_i sink hw
    split at h
    · cases h
    · rename_i hf
      cases h
      exact ⟨encode page, List.prefix_refl _, (flush_eq hf).1.trans (writeAll_ok hw).1⟩

end Whole

/-! ## Arriving pages -/

/-- The title that the first bytes of a page give, as far as they are searched. -/
def headTitle (taken : Bytes) : Option Text := Html.title? (decodeLossy (taken.take headLimit))

/-- A title stays when more bytes arrive. -/
theorem headTitle_append {taken : Bytes} (h : (headTitle taken).isSome) (piece : Bytes) :
    headTitle (taken ++ piece) = headTitle taken := by
  rw [headTitle, List.take_append]
  exact Html.title?_decodeLossy_append h _

namespace Arriving

variable {ω : Type}

/-- The title is that of the bytes taken, and as long as there is none, the head has the first of them. -/
structure Agrees (taken : Bytes) (a : Arriving ω) : Prop where
  title : a.viewport.title = headTitle taken
  head : a.viewport.title = none → a.head.reverse = taken.take headLimit
  room : a.viewport.title = none → a.room = headLimit - taken.length

theorem agrees_stream (v : Viewport ω) : Agrees [] v.stream :=
  ⟨show none = headTitle [] by decide, fun _ => rfl, fun _ => rfl⟩

/-- A search keeps the agreement. -/
theorem sniff_agrees {taken : Bytes} {a : Arriving ω} (h : Agrees taken a) (piece : Bytes) :
    Agrees (taken ++ piece) (a.sniff piece) := by
  unfold sniff
  by_cases hsome : a.viewport.title.isSome
  · rw [if_pos (by simp [hsome])]
    have hkeep := headTitle_append (by rwa [← h.title]) piece
    have hne : a.viewport.title ≠ none := Option.isSome_iff_ne_none.mp hsome
    exact ⟨by rw [hkeep, h.title], fun hn => absurd hn hne, fun hn => absurd hn hne⟩
  have hnone : a.viewport.title = none := by simpa using hsome
  have hhead := h.head hnone
  have hroom := h.room hnone
  have htake : (taken ++ piece).take headLimit = taken.take headLimit ++ piece.take a.room := by
    rw [List.take_append, hroom]
  by_cases hfull : a.room = 0
  · rw [if_pos (by simp [hfull])]
    rw [hfull, List.take_zero, List.append_nil] at htake
    refine ⟨by rw [headTitle, htake, h.title]; rfl, fun _ => by rw [hhead, htake], fun _ => ?_⟩
    rw [List.length_append]
    omega
  rw [if_neg (by simp [hnone, hfull])]
  generalize hp : piece.take a.room = part at htake
  have hpart : (part.reverse ++ a.head).reverse = (taken ++ piece).take headLimit := by
    rw [List.reverse_append, List.reverse_reverse, hhead, htake]
  have hleft : a.room - part.length = headLimit - (taken ++ piece).length := by
    rw [← hp, List.length_take, List.length_append]
    omega
  simp only
  by_cases hends : endsTitle part.length (part.reverse ++ a.head) = true
  · rw [if_pos hends]
    exact ⟨by rw [headTitle, hpart], fun _ => hpart, fun _ => hleft⟩
  · rw [if_neg hends]
    -- the title was not read again, which is right since no title element ends in the piece
    refine ⟨?_, fun _ => hpart, fun _ => hleft⟩
    have hsame : Html.title? (decodeLossy (taken.take headLimit ++ part)) =
        Html.title? (decodeLossy (taken.take headLimit)) := by
      apply Html.title?_decodeLossy_of_not_ends
      rw [← hhead, List.reverse_reverse]
      simpa using hends
    rw [headTitle, htake, hsame, ← headTitle, h.title]

variable [Writer ω]

/-- Every call keeps the agreement with what is taken. -/
theorem call_agrees {taken : Bytes} {a : Arriving ω} (h : Agrees taken a) (c : Call) :
    ∃ piece, held (call a c) = held a ++ piece ∧ Agrees (taken ++ piece) (call a c) := by
  have hsame : ∀ sink : ω, Agrees taken { a with viewport.sink := sink } := fun _ => ⟨h.title, h.head, h.room⟩
  cases c with
  | flush =>
    refine ⟨[], ?_, ?_⟩
    · rw [List.append_nil]
      exact (flush_eq rfl : _ ∧ _).1
    · rw [List.append_nil]
      exact hsame _
  | write b =>
    show ∃ piece, held (a.write b).2 = held a ++ piece ∧ Agrees (taken ++ piece) (a.write b).2
    cases hw : Writer.write a.viewport.sink b with
    | mk reply sink =>
      cases reply with
      | accepted n =>
        simp only [Arriving.write, hw]
        refine ⟨b.take n, ?_, sniff_agrees (hsame sink) _⟩
        show held (Arriving.sniff _ _).viewport.sink = held a.viewport.sink ++ b.take n
        rw [sniff_sink]
        exact (write_accepted hw).2.1
      | interrupted =>
        simp only [Arriving.write, hw]
        refine ⟨[], ?_, by rw [List.append_nil]; exact hsame sink⟩
        rw [List.append_nil]
        exact (write_interrupted hw).1
      | failed e =>
        simp only [Arriving.write, hw]
        refine ⟨[], ?_, by rw [List.append_nil]; exact hsame sink⟩
        rw [List.append_nil]
        exact (write_failed hw).1

/-- Every run of calls keeps the agreement with what is taken. -/
theorem after_agrees {taken : Bytes} {a : Arriving ω} (h : Agrees taken a) (calls : List Call) :
    ∃ piece, held (after a calls) = held a ++ piece ∧ Agrees (taken ++ piece) (after a calls) := by
  induction calls generalizing taken a with
  | nil => exact ⟨[], (List.append_nil _).symm, by rw [List.append_nil]; exact h⟩
  | cons c calls ih =>
    obtain ⟨piece, hheld, hagrees⟩ := call_agrees h c
    obtain ⟨piece', hheld', hagrees'⟩ := ih hagrees
    refine ⟨piece ++ piece', ?_, ?_⟩
    · rw [← List.append_assoc, ← hheld]
      exact hheld'
    · rw [← List.append_assoc]
      exact hagrees'

end Arriving

variable {ω : Type} [Writer ω]

/-- A stream has the title of the bytes it took. -/
theorem title_after {v : Viewport ω} {calls : List Call} {taken : Bytes}
    (h : held (after v.stream calls) = held v.sink ++ taken) :
    (after v.stream calls).viewport.title = headTitle taken := by
  obtain ⟨piece, hheld, hagrees⟩ := Arriving.after_agrees (Arriving.agrees_stream v) calls
  have hsame : held v.sink ++ taken = held v.sink ++ piece := h.symm.trans hheld
  rw [List.append_cancel_left hsame]
  exact hagrees.title

/-- A page that is no longer than what is searched gives its own title. -/
theorem headTitle_encode {page : Text} (h : (encode page).length ≤ headLimit) :
    headTitle (encode page) = Html.title? page := by
  rw [headTitle, List.take_of_length_le h, decodeLossy_encode]

/-- **The title of an arriving page is that of the bytes taken so far**, as far as they are searched: after any calls of
the stream, so after any chunks and at every moment of a copy. So a title that is there stays, the ways in which the
bytes are cut and the page before make no difference, and a page that is not too long gets the title it has when it is
shown as a whole. -/
theorem title_of_stream (v : Viewport ω) :
    (∀ calls, ∃ taken, held (after v.stream calls) = held v.sink ++ taken ∧
      (after v.stream calls).viewport.title = Html.title? (decodeLossy (taken.take (min headLimit taken.length)))) ∧
    (∀ calls more, (after v.stream calls).viewport.title.isSome →
      (after v.stream (calls ++ more)).viewport.title = (after v.stream calls).viewport.title) ∧
    (∀ {ω' : Type} [Writer ω'] (v' : Viewport ω') (calls calls' : List Call) (taken : Bytes),
      held (after v.stream calls) = held v.sink ++ taken → held (after v'.stream calls') = held v'.sink ++ taken →
      (after v'.stream calls').viewport.title = (after v.stream calls).viewport.title) ∧
    (∀ {ω' : Type} [Writer ω'] (v' : Viewport ω') (calls : List Call) (page : Text),
      held (after v.stream calls) = held v.sink ++ encode page → (encode page).length ≤ headLimit →
      (after v.stream calls).viewport.title = (v'.showPage page).2.title) ∧
    (∀ chunks, (∃ calls, (writeEach v.stream chunks).2 = after v.stream calls) ∧
      ∀ a, writeEach v.stream chunks = (.ok (), a) → held a = held v.sink ++ chunks.flatten) ∧
    (∀ r m, ∃ calls, (Copying.moment r v.stream m).sink = after v.stream calls) := by
  refine ⟨fun calls => ?_, fun calls more hsome => ?_, fun v' calls calls' taken h h' => ?_,
    fun v' calls page h hl => ?_,
    fun chunks => ⟨writeEach_calls _ _, fun a h => writeEach_ok h⟩, fun r m => Copying.moment_calls r v.stream m⟩
  · obtain ⟨taken, hheld⟩ := held_after v.stream calls
    refine ⟨taken, hheld.symm, ?_⟩
    rw [title_after hheld.symm, headTitle, ← List.take_take, List.take_length]
  · obtain ⟨taken, hheld⟩ := held_after v.stream calls
    obtain ⟨piece, hmore⟩ := held_after (after v.stream calls) more
    have htitle := title_after hheld.symm
    rw [← after_append, ← hheld, List.append_assoc] at hmore
    rw [title_after hmore.symm, htitle]
    exact headTitle_append (by rwa [← htitle]) piece
  · rw [title_after h, title_after h']
  · rw [title_after h, headTitle_encode hl, title_showPage]

end DocViewer
