import DocViewer.CommandLine.Reading
import DocViewer.Dialogue
import DocViewer.Log.Directive
import DocViewer.Output.Sink

/-!
# Running the program

One run (`run`) reads the arguments, shows what they ask for, and leaves an exit code, what was written to the two
outputs, and the disk. Pages go to the output, or to a file that is emptied before anything is shown. The log and the
errors go to the error output.
-/

namespace DocViewer.CommandLine

def programName : Text := "gman".toList

def programVersion : Text := "0.2.0".toList

/-- The lines of the help, which also answer a mistake in the arguments. The wording is this library's own, where a
program may print a help that is made from the declarations of its options: what is the same for both is the exit code
and the output that the help goes to, not the text. -/
def usageLines : List String :=
  ["Usage: gman [OPTIONS] <COMMAND>",
    "",
    "Commands:",
    "  search <TEXT>...  Show a man page (man:printf(3)), an STL page (stl:vector), or look up a name",
    "  open <LINK>       Follow a link, on the page that --from names",
    "  stl-terms         List the STL terms of the index",
    "  shell             Read searches from stdin; also :open LINK, :hover [URL] and :quit",
    "  help              Print this help",
    "",
    "Options:",
    "  -o, --output <PATH>        Write pages here instead of stdout",
    "  -v, --verbose              More log output",
    "  -q, --quiet                Only log errors",
    "      --log-level <LEVEL>    error, warn, info, debug or trace",
    "      --log-format <FORMAT>  pretty, compact or json",
    "      --stl-root <DIR>       Root of the STL pages [env: GMAN_STL_ROOT]",
    "      --formatter <PATH>     Program that turns man sources into HTML [env: GMAN_FORMATTER]",
    "      --no-formatter         Show plain man pages",
    "      --man <PROGRAM>        The man program [env: GMAN_MAN]",
    "      --sections <LIST>      Sections to search [env: GMAN_SECTIONS]",
    "  -h, --help                 Print this help",
    "  -V, --version              Print the version"]

def usage : Text := usageLines.flatMap fun line => line.toList ++ ['\n']

/-- What surrounds a run. -/
structure Surroundings where
  environment : List (Text × Text)
  stdin : Bytes
  tools : Tools
  fetcher : Fetcher
  inflate : Inflater
  disk : Disk

/-- What a run leaves. -/
structure Result where
  code : Nat
  stdout : Bytes := []
  stderr : Text := []
  disk : Disk

/-- How a task ended: whether there was something to show. -/
abbrev Ending := Except Error Bool

/-- The exit code of an ending. -/
def Ending.code : Ending → Nat
  | .ok true => 0
  | .ok false => 1
  | .error _ => 1

/-! ## The error output -/

/-- The records that are written: those that the environment asks for, or else those that the options ask for. -/
def logFilter (environment : List (Text × Text)) (log : Log.Settings) : Log.Filter :=
  ((environment.lookup "RUST_LOG".toList).bind Log.Filter.ofText?).getD (.upTo log.level)

def recordText (format : Log.Format) (r : Log.Record) : Text := match format with
  | .json => r.object
  | _ => r.line

/-- The lines of the notices that are written. -/
def noticeLines (filter : Log.Filter) (format : Log.Format) (notices : List Log.Notice) : List Text :=
  notices.filterMap fun
    | .line text => some text
    | .record r => if filter.permits r then some (recordText format r) else none

/-- The line that tells of the error of an ending. -/
def errorLine : Ending → List Text
  | .error e => ["error: ".toList ++ e.message]
  | .ok _ => []

/-! ## Tasks -/

section
variable {ω : Type} [Writer ω]

/-- Shows what a search or a link refers to. -/
def finish : Except Error Outcome × Session ω → Ending × Session ω
  | (.ok outcome, s) => (.ok outcome.found, s.report outcome)
  | (.error e, s) => (.error e, s)

/-- Does a task. In a dialogue, `settle` is done after each line. -/
def perform (settle : Session ω → Session ω) (stdin : Bytes) (task : Task) (s : Session ω) : Ending × Session ω :=
  match task with
  | .search words => finish (s.search ([' '].intercalate words))
  | .follow link page =>
    let navigation := match page with
      | some url => .startingAt url
      | none => s.browser.navigation
    finish ({ s with browser.navigation := navigation }.follow link)
  | .terms => s.listTerms
  | .shell =>
    let (result, s) := s.converse settle (inputLines stdin)
    (result.map fun _ => true, s)

end

/-! ## The program -/

/-- Brings what was written to the file at a place. -/
def save (place : Option Place) (s : Session Sink) : Session Sink :=
  match place with
  | some place => { s with world.disk := s.world.disk.put place s.viewport.sink.data }
  | none => s

/-- Where the pages go: to the file at a place, or to the output. -/
def openOutput (d : Disk) : Option Text → Except Error (Option Place × Disk)
  | none => .ok (none, d)
  | some path =>
    match d.locateNew path with
    | .ok place => .ok (some place, { d.put place [] with busy := [place] })
    | .error fault => .error (.io path fault)

/-- Does what an invocation asks for. -/
def invoke (surroundings : Surroundings) (i : Invocation) : Result :=
  let browser := Browser.new i.config surroundings.disk
  match openOutput surroundings.disk i.output with
  | .error e =>
    { code := 1, stderr := (errorLine (.error e)).flatMap (· ++ ['\n']), disk := surroundings.disk }
  | .ok (place, disk) =>
    let world : World :=
      { tools := surroundings.tools, fetcher := surroundings.fetcher, inflate := surroundings.inflate, disk }
    let (ending, s) := perform (save place) surroundings.stdin i.task ⟨browser, .new Sink.unlimited, world⟩
    let s := save place s
    let filter := logFilter surroundings.environment i.log
    let lines := noticeLines filter i.log.format s.world.journal.reverse ++ errorLine ending
    { code := ending.code
      stdout := if place.isSome then [] else s.viewport.sink.data
      stderr := lines.flatMap (· ++ ['\n'])
      disk := s.world.disk }

/-- One run of the program. -/
def run (surroundings : Surroundings) (args : List Text) : Result :=
  match Invocation.ofArguments surroundings.environment args with
  | .ok i => invoke surroundings i
  | .error .help => { code := 0, stdout := encode usage, disk := surroundings.disk }
  | .error .version =>
    { code := 0, stdout := encode (programName ++ ' ' :: programVersion ++ ['\n']), disk := surroundings.disk }
  | .error .usage => { code := 2, stderr := usage, disk := surroundings.disk }

end DocViewer.CommandLine
