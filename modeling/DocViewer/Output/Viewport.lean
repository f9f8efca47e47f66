import DocViewer.Html.Title
import DocViewer.Output.Writer
import DocViewer.Text.Utf8

/-!
# The viewport

The viewport writes pages to a writer and keeps the title of the window. A whole page (`showPage`) gives its title at
once. A page that arrives in pieces (`stream`) is searched for its title as it is written, as far as its first 16384
bytes, and only until a title is found.
-/

namespace DocViewer

/-- The name of the application, as the window shows it. -/
def appName : Text := "GMan".toList

structure Viewport (ω : Type) where
  sink : ω
  /-- The title of the page on display. -/
  title : Option Text

/-- How much of an arriving page is searched for its title. -/
def headLimit : Nat := 16384

/-- A page that is arriving, the first bytes of it with the last one first, and how many more of them are searched. -/
structure Arriving (ω : Type) where
  viewport : Viewport ω
  head : Bytes := []
  room : Nat := headLimit

/-- How a title element ends, its last character first. -/
def titleEnd : Text := "</title>".toList.reverse

/-- Whether a title element ends in the first so many of the bytes, which come with the last one first. -/
def endsTitle : (count : Nat) → Bytes → Bool
  | 0, _ => false
  | _ + 1, [] => false
  | count + 1, b :: before =>
    let tag := ((b :: before).take titleEnd.length).map fun b => Char.ofNat b.toNat
    (dropFold? titleEnd tag).isSome || endsTitle count before

namespace Arriving

variable {ω : Type}

/-- Searches the head with one more piece, unless there is a title or the head is complete. A piece in which no title
element ends cannot bring a title. -/
def sniff (a : Arriving ω) (piece : Bytes) : Arriving ω :=
  if a.viewport.title.isSome || a.room = 0 then a
  else
    let piece := piece.take a.room
    let head := piece.reverse ++ a.head
    let a := { a with head, room := a.room - piece.length }
    if endsTitle piece.length head then { a with viewport.title := Html.title? (decodeLossy head.reverse) } else a

@[simp] theorem sniff_sink (a : Arriving ω) (piece : Bytes) : (a.sniff piece).viewport.sink = a.viewport.sink := by
  unfold sniff
  split
  · rfl
  · simp only; split <;> rfl

variable [Writer ω]

def write (a : Arriving ω) (b : Bytes) : WriteReply × Arriving ω :=
  match Writer.write a.viewport.sink b with
  | (.accepted n, sink) => (.accepted n, { a with viewport.sink := sink }.sniff (b.take n))
  | (reply, sink) => (reply, { a with viewport.sink := sink })

def flush (a : Arriving ω) : Option Text × Arriving ω :=
  match Writer.flush a.viewport.sink with
  | (fault, sink) => (fault, { a with viewport.sink := sink })

instance : Writer (Arriving ω) where
  write := write
  flush := flush
  held a := Writer.held a.viewport.sink
  flushes a := Writer.flushes a.viewport.sink
  patience a := Writer.patience a.viewport.sink
  write_accepted {a a' b n} h := by
    rw [write] at h
    split at h
    · rename_i hw
      simp only [Prod.mk.injEq, WriteReply.accepted.injEq] at h
      obtain ⟨rfl, rfl⟩ := h
      simpa using Writer.write_accepted hw
    · rename_i hw
      simp only [Prod.mk.injEq] at h
      obtain ⟨rfl, rfl⟩ := h
      exact Writer.write_accepted hw
  write_interrupted {a a' b} h := by
    rw [write] at h
    split at h
    · simp at h
    · rename_i hw
      simp only [Prod.mk.injEq] at h
      obtain ⟨rfl, rfl⟩ := h
      exact Writer.write_interrupted hw
  write_failed {a a' b e} h := by
    rw [write] at h
    split at h
    · simp at h
    · rename_i hw
      simp only [Prod.mk.injEq] at h
      obtain ⟨rfl, rfl⟩ := h
      exact Writer.write_failed hw
  flush_eq {a a' e} h := by
    simp only [flush, Prod.mk.injEq] at h
    obtain ⟨_, rfl⟩ := h
    exact Writer.flush_eq rfl

end Arriving

namespace Viewport

variable {ω : Type}

def new (sink : ω) : Viewport ω := ⟨sink, none⟩

/-- Makes room for a page that arrives in pieces. -/
def stream (v : Viewport ω) : Arriving ω := { viewport := { v with title := none } }

/-- Shows a whole page. -/
def showPage [Writer ω] (v : Viewport ω) (page : Text) : Except StreamFault Unit × Viewport ω :=
  let title := Html.title? page
  match writeAll v.sink (encode page) with
  | (.error fault, sink) => (.error fault, ⟨sink, title⟩)
  | (.ok (), sink) =>
    match Writer.flush sink with
    | (none, sink) => (.ok (), ⟨sink, title⟩)
    | (some message, sink) => (.error (.failed message), ⟨sink, title⟩)

/-- The title of the window. -/
def windowTitle (v : Viewport ω) : Text := match v.title with
  | some title => title ++ " - ".toList ++ appName
  | none => appName

end Viewport

end DocViewer
