import DocViewer.Config
import DocViewer.Html.Contents
import DocViewer.Html.Escape
import DocViewer.Text.Lines
import DocViewer.Text.Overstrike
import DocViewer.World

/-!
# Manual pages

With a formatter, `man` is asked where the source of a page lies, and the formatter turns the source into HTML
(`ManPages.formatted`). Without one, `man` prints the page, and its text is shown as it is (`ManPages.plain`). Whether
there is such a page is not checked: what the programs print is the page.
-/

namespace DocViewer

/-- How the formatter writes a reference to another page. -/
def referenceTemplate : Text := "man:%s(%s)".toList

structure ManPages where
  program : Text
  formatter : Option Text
  deriving DecidableEq

namespace ManPages

/-- The formatter is chosen once, by what is on the disk. -/
def new (config : Config) (d : Disk) : ManPages := ⟨config.manProgram, config.availableFormatter d⟩

/-- The command that prints a page. -/
def printCommand (m : ManPages) (sections page : Text) : Command :=
  { program := m.program, args := ["-S".toList, sections, "--".toList, page] }

/-- The command that prints where the source of a page lies. -/
def locateCommand (m : ManPages) (sections page : Text) : Command :=
  { program := m.program, args := ["-S".toList, sections, "-w".toList, "--".toList, page] }

/-- The command that turns a source into HTML. -/
def formatCommand (formatter : Text) (source : Bytes) : Command :=
  { program := formatter
    args := ["-f".toList, "HTML".toList, "-r".toList, referenceTemplate, "-S".toList]
    stdin := some source }

/-- What a command prints, however it ends. -/
def output (c : Command) (w : World) : Except Error Text × World :=
  match w.run c with
  | (.error e, w) => (.error e, w)
  | (.ok captured, w) =>
    let w :=
      if captured.success then w
      else
        w.log .debug "gman::man" "exited with failure"
          [("program", .shown c.program), ("args", .shown (quoteList c.args))]
    (.ok captured.text, w)

/-- The page that shows a printed text as it is. -/
def plainPage (text : Text) : Text :=
  "<pre>".toList ++ Html.escape (stripOverstrike text) ++ "</pre>".toList

def plain (m : ManPages) (sections page : Text) (w : World) : Except Error Text × World :=
  match output (m.printCommand sections page) w with
  | (.error e, w) => (.error e, w)
  | (.ok text, w) => (.ok (plainPage text), w)

/-- The path on the first line of what was printed. -/
def pathIn (text : Text) : Text := trim (firstLine text)

def isCompressed (path : Text) : Bool := (dropSuffix? ".gz".toList path).isSome

/-- The source of a page, inflated if its file is compressed. -/
def readSource (inflate : Inflater) (d : Disk) (path : Text) : Except Error Bytes :=
  match d.read path with
  | .error fault => .error (.io path fault)
  | .ok bytes =>
    if isCompressed path then
      match inflate bytes with
      | .ok source => .ok source
      | .error reason => .error (.decompress path reason)
    else .ok bytes

def formatted (m : ManPages) (formatter sections page : Text) (w : World) : Except Error Text × World :=
  match output (m.locateCommand sections page) w with
  | (.error e, w) => (.error e, w)
  | (.ok text, w) =>
    let path := pathIn text
    let w := w.log .debug "gman::man" "located"
      [("page", .quoted page), ("section", .quoted sections), ("path", .quoted path)]
    if path.isEmpty then
      (.ok [], w.log .info "gman::man" "no man page file" [("page", .quoted page), ("section", .quoted sections)])
    else
      match readSource w.inflate w.disk path with
      | .error e => (.error e, w)
      | .ok source =>
        match output (formatCommand formatter source) w with
        | (.error e, w) => (.error e, w)
        | (.ok html, w) => (.ok (Html.tidy html), w)

/-- The page as HTML. -/
def page (m : ManPages) (sections page : Text) (w : World) : Except Error Text × World :=
  match m.formatter with
  | some formatter => m.formatted formatter sections page w
  | none => m.plain sections page w

end ManPages

end DocViewer
