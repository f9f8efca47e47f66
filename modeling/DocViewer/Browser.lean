import DocViewer.Link.StatusHint
import DocViewer.Man
import DocViewer.Output.Viewport
import DocViewer.Stl.Index

/-!
# The browser

The browser shows what a search or a link refers to (`Session.visit`): it finds the page, writes it to the viewport, and
moves to the URL of a web page when all of it has arrived. The index of the library is read when it is first needed.
-/

namespace DocViewer

/-- What showing a target came to. -/
inductive Outcome
  /-- A whole page was written. -/
  | shown
  | streamed (url : Text) (bytes : Nat)
  /-- The input is malformed; nothing was done. -/
  | ignored
  /-- The library has no such term. -/
  | notFound (term : Text)
  deriving DecidableEq

structure Browser where
  config : Config
  man : ManPages
  /-- The index of the library, once it was needed. -/
  index : Option Stl.Index
  navigation : Navigation
  hint : StatusHint

/-- The browser, its viewport and the world around it. -/
structure Session (ω : Type) where
  browser : Browser
  viewport : Viewport ω
  world : World

namespace Browser

def new (config : Config) (d : Disk) : Browser := ⟨config, .new config d, none, .new, .new⟩

/-- How the log tells what a target is. -/
def describe : Target → Text
  | .man page sections =>
    "Man \x7b page: ".toList ++ quote page ++ ", section: ".toList ++ quote sections ++ " \x7d".toList
  | .stl term => "Stl \x7b term: ".toList ++ quote term ++ " \x7d".toList
  | .file path => "File \x7b path: ".toList ++ quote path ++ " \x7d".toList
  | .web url => "Web \x7b url: ".toList ++ quote url ++ " \x7d".toList
  | .malformed input => "Malformed \x7b input: ".toList ++ quote input ++ " \x7d".toList

end Browser

namespace Session

variable {ω : Type}

/-- Logs how reading the index went. -/
def logStatus (w : World) (status : Stl.Status) : World :=
  let level : Log.Level := match status with
    | .loaded _ => .info
    | _ => .warn
  w.log level "gman::stl" (String.ofList status.message)

/-- The index of the library, which is read from the disk unless it was before. -/
def stlIndex (s : Session ω) : Stl.Index × Session ω :=
  match s.browser.index with
  | some index => (index, s)
  | none =>
    let index := Stl.Index.build s.browser.config.stlRoot s.browser.config.stlIndex s.world.disk
    (index, { s with browser.index := some index, world := logStatus s.world index.status })

/-- The pointer enters a link, or leaves one. -/
def hover (s : Session ω) (url : Option Text) : Session ω :=
  { s with browser.hint := s.browser.hint.hover url }

variable [Writer ω]

/-- Shows a whole page, or tells why there is none. -/
def present (s : Session ω) : Except Error Text → Except Error Outcome × Session ω
  | .error e => (.error e, s)
  | .ok page =>
    match s.viewport.showPage page with
    | (.ok (), viewport) => (.ok .shown, { s with viewport })
    | (.error fault, viewport) => (.error (.stream fault), { s with viewport })

def openMan (s : Session ω) (page sections : Text) : Except Error Outcome × Session ω :=
  let (html, world) := s.browser.man.page sections page s.world
  { s with world }.present html

def openStl (s : Session ω) (term : Text) : Except Error Outcome × Session ω :=
  let (index, s) := s.stlIndex
  match index.page term s.world.disk with
  | .error e => s.present (.error e)
  | .ok (some html) => s.present (.ok html)
  | .ok none =>
    let world := s.world.log .info "gman::dispatch" "unknown STL term" [("term", .quoted term)]
    (.ok (.notFound term), { s with world })

def openFile (s : Session ω) (path : Text) : Except Error Outcome × Session ω :=
  s.present (s.world.disk.page path)

def openWeb (s : Session ω) (url : Text) : Except Error Outcome × Session ω :=
  let (result, page, world) := s.world.fetch url s.viewport.stream
  let s := { s with viewport := page.viewport, world }
  match result with
  | .error e => (.error e, s)
  | .ok n => (.ok (.streamed url n), { s with browser.navigation := s.browser.navigation.advance url })

/-- Shows a target. -/
def visit (s : Session ω) (target : Target) : Except Error Outcome × Session ω :=
  let s := { s with world := s.world.log .debug "gman::dispatch" "open" [("target", .shown (Browser.describe target))] }
  match target with
  | .man page sections => s.openMan page sections
  | .stl term => s.openStl term
  | .file path => s.openFile path
  | .web url => s.openWeb url
  | .malformed input =>
    let world := s.world.log .debug "gman::dispatch" "ignoring malformed URL" [("input", .quoted input)]
    (.ok .ignored, { s with world })

/-- Shows what the text of the search box refers to. -/
def search (s : Session ω) (text : Text) : Except Error Outcome × Session ω :=
  s.visit (Target.ofSearch text s.browser.config.sections)

/-- Shows what a link on the page on display refers to. -/
def follow (s : Session ω) (link : Text) : Except Error Outcome × Session ω :=
  s.visit (Target.ofLink link s.browser.navigation)

/-- Writes texts, each on a line of its own: first the text, and then the newline. -/
def writeLines (sink : ω) (ts : List Text) : Except StreamFault Unit × ω :=
  writeEach sink (ts.flatMap fun t => [encode t, encode ['\n']])

/-- Lists the terms of the library, and tells whether it has an index. -/
def listTerms (s : Session ω) : Except Error Bool × Session ω :=
  let (index, s) := s.stlIndex
  match index.status with
  | .loaded _ =>
    let (result, page) := writeLines s.viewport.stream index.names
    let s := { s with viewport := page.viewport }
    match result with
    | .ok () => (.ok true, s)
    | .error fault => (.error (.stream fault), s)
  | status => (.ok false, { s with world := s.world.tell status.message })

end Session

end DocViewer
