import DocViewer.Error
import DocViewer.Log.Record
import DocViewer.Output.Copy
import DocViewer.Text.Blank
import DocViewer.Tool

/-!
# The world around the viewer

The world holds what the viewer looks at, the disk, and what the viewer leaves behind: the commands it ran, the web
pages it asked for, the records of its log, and the lines it told its reader. How programs and web servers behave, and
what compressed files hold, is a part of the world too.
-/

namespace DocViewer

/-- The answer to a request for a web page. -/
inductive Delivery
  /-- There is no answer. -/
  | refused (reason : Text)
  | body (reader : Reader)
  deriving DecidableEq

/-- What a request gives, given the requests before it, the last one first. -/
abbrev Fetcher := List Text → Text → Delivery

/-- What the bytes of a compressed file hold, or why they cannot be inflated. -/
abbrev Inflater := Bytes → Except Text Bytes

structure World where
  tools : Tools
  fetcher : Fetcher
  inflate : Inflater
  disk : Disk
  /-- The commands so far, the last one first. -/
  calls : List Command := []
  /-- The web pages asked for so far, the last one first. -/
  requests : List Text := []
  /-- The records of the log and the lines for the reader, the last one first. -/
  journal : List Log.Notice := []

namespace World

def log (w : World) (level : Log.Level) (source message : String) (fields : List (String × Log.Value) := []) : World :=
  { w with journal := .record ⟨level, source, message.toList, fields⟩ :: w.journal }

/-- Tells the reader something, whatever is logged. -/
def tell (w : World) (text : Text) : World := { w with journal := .line text :: w.journal }

/-- Runs a command. A program that ends badly is no error, only one that does not start. -/
def run (w : World) (c : Command) : Except Error Captured × World :=
  let w := w.log .debug "gman::invoker" "running"
    [("program", .shown c.program), ("args", .shown (quoteList c.args))]
  let (result, disk) := w.tools w.calls w.disk c
  let w := { w with disk, calls := c :: w.calls }
  match result with
  | .error fault => (.error (.spawn c.program fault), w)
  | .ok captured =>
    let w :=
      if captured.stderr.isEmpty then w
      else
        w.log .debug "gman::invoker" "stderr"
          [("program", .shown c.program), ("stderr", .shown (trimEnd (decodeLossy captured.stderr)))]
    let w := w.log .trace "gman::invoker" "captured"
      [("bytes", .number captured.stdout.length), ("status", .shown captured.status.message)]
    (.ok captured, w)

/-- Asks for a web page and copies its body to a writer. -/
def fetch {ω : Type} [Writer ω] (w : World) (url : Text) (sink : ω) : Except Error Nat × ω × World :=
  let delivery := w.fetcher w.requests url
  let w := { w with requests := url :: w.requests }
  match delivery with
  | .refused reason => (.error (.fetch url reason), sink, w)
  | .body reader =>
    match copyChunked reader sink with
    | (.ok n, sink) => (.ok n, sink, w)
    | (.error fault, sink) => (.error (.stream fault), sink, w)

end World

end DocViewer
