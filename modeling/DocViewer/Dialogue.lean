import DocViewer.Browser

/-!
# Dialogues

A dialogue reads lines, and each line asks for something: a line that starts with `:open ` follows a link, one that
starts with `:hover` sets the status hint, `:quit` ends the dialogue, and any other line is a search. A page that cannot
be shown does not end the dialogue (`Session.perform`), but a line that is no text does (`Session.converse`).
-/

namespace DocViewer

/-- What a line asks for. -/
inductive Request
  | nothing
  | quit
  | follow (link : Text)
  | hover (url : Option Text)
  | search (text : Text)
  deriving DecidableEq

def Request.ofLine (line : Text) : Request :=
  let line := trim line
  if line.isEmpty then .nothing
  else if line = ":quit".toList then .quit
  else
    match dropPrefix? ":open ".toList line with
    | some link => .follow (trim link)
    | none =>
      match dropPrefix? ":hover".toList line with
      | some rest => .hover (if (trim rest).isEmpty then none else some (trim rest))
      | none => .search line

/-- Whether there was something to show. -/
def Outcome.found : Outcome → Bool
  | .shown => true
  | .streamed .. => true
  | .ignored => false
  | .notFound _ => false

namespace Session

variable {ω : Type}

/-- Logs what was shown, or that there was nothing to show. -/
def report (s : Session ω) (outcome : Outcome) : Session ω :=
  let log (level : Log.Level) (message : String) (fields : List (String × Log.Value)) : Session ω :=
    { s with world := s.world.log level "gman" message fields }
  match outcome with
  | .shown => log .info "shown" [("title", .shown s.viewport.windowTitle)]
  | .streamed url n => log .info "streamed" [("url", .quoted url), ("bytes", .number n)]
  | .ignored => log .warn "not a valid man: or stl: URL" []
  | .notFound term => log .warn "no STL documentation" [("term", .quoted term)]

/-- Logs how showing a page went. -/
def conclude : Except Error Outcome × Session ω → Session ω
  | (.ok outcome, s) => s.report outcome
  | (.error e, s) => { s with world := s.world.log .warn "gman" "load failed" [("error", .shown e.message)] }

/-- Tells the hint, if there is one. -/
def tellHint (s : Session ω) : Session ω :=
  match s.browser.hint.shown with
  | some url => { s with world := s.world.tell url }
  | none => s

variable [Writer ω]

/-- Does what a line asks for. -/
def perform (s : Session ω) : Request → Session ω
  | .nothing => s
  | .quit => s
  | .follow link => conclude (s.follow link)
  | .hover url => (s.hover url).tellHint
  | .search text => conclude (s.search text)

/-- Performs what the lines ask for, up to one that quits. After each line, `settle` brings what was written to its
place. -/
def converse (settle : Session ω → Session ω) : List Bytes → Session ω → Except Error Unit × Session ω
  | [], s => (.ok (), s)
  | line :: lines, s =>
    match decode? line with
    | none => (.error (.stream .notText), s)
    | some text =>
      match Request.ofLine text with
      | .quit => (.ok (), s)
      | request => converse settle lines (settle (s.perform request))

end Session

/-- The lines of an input, without the newlines that end them. -/
def inputLines (input : Bytes) : List Bytes :=
  let lines := input.splitOn 10
  if lines.getLast? = some [] then lines.dropLast else lines

end DocViewer
