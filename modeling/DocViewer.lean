import DocViewer.Browser
import DocViewer.CommandLine.Argument
import DocViewer.CommandLine.Invocation
import DocViewer.CommandLine.Reading
import DocViewer.CommandLine.Run
import DocViewer.Config
import DocViewer.Dialogue
import DocViewer.Disk.Fault
import DocViewer.Disk.Page
import DocViewer.Disk.Path
import DocViewer.Disk.Tree
import DocViewer.Error
import DocViewer.Gzip.Checksum
import DocViewer.Gzip.Deflate
import DocViewer.Gzip.Huffman
import DocViewer.Gzip.Member
import DocViewer.Host.Launch
import DocViewer.Host.Machine
import DocViewer.Host.Options
import DocViewer.Host.Program.Basic
import DocViewer.Host.Program.Cat
import DocViewer.Host.Program.Columns
import DocViewer.Host.Program.Count
import DocViewer.Host.Program.Echo
import DocViewer.Host.Program.Head
import DocViewer.Host.Program.Listing
import DocViewer.Host.Programs
import DocViewer.Host.Script.Arithmetic
import DocViewer.Host.Script.Builtin.Basic
import DocViewer.Host.Script.Builtin.Input
import DocViewer.Host.Script.Builtin.Places
import DocViewer.Host.Script.Builtin.Printing
import DocViewer.Host.Script.Builtin.Real
import DocViewer.Host.Script.Builtin.Settings
import DocViewer.Host.Script.Builtin.Signals
import DocViewer.Host.Script.Builtin.Testing
import DocViewer.Host.Script.Child
import DocViewer.Host.Script.Commands
import DocViewer.Host.Script.Expansion
import DocViewer.Host.Script.Pattern
import DocViewer.Host.Script.Reading
import DocViewer.Host.Script.Redirecting
import DocViewer.Host.Script.Running
import DocViewer.Host.Script.Shell
import DocViewer.Host.Script.Source
import DocViewer.Host.Script.Start
import DocViewer.Host.Script.Statement
import DocViewer.Host.System
import DocViewer.Host.Wide
import DocViewer.Html.Contents
import DocViewer.Html.Entity
import DocViewer.Html.EntityNames
import DocViewer.Html.Escape
import DocViewer.Html.Title
import DocViewer.Link.Navigation
import DocViewer.Link.StatusHint
import DocViewer.Link.Target
import DocViewer.Log.Directive
import DocViewer.Log.Filter
import DocViewer.Log.Level
import DocViewer.Log.Record
import DocViewer.Log.Settings
import DocViewer.Log.ValuePattern
import DocViewer.Main
import DocViewer.Man
import DocViewer.Output.Copy
import DocViewer.Output.Sink
import DocViewer.Output.Viewport
import DocViewer.Output.Writer
import DocViewer.Proofs.Browser.Altering
import DocViewer.Proofs.Browser.BareSearches
import DocViewer.Proofs.Browser.Commands
import DocViewer.Proofs.Browser.FailedVisits
import DocViewer.Proofs.Browser.Hints
import DocViewer.Proofs.Browser.Library
import DocViewer.Proofs.Browser.Likeness
import DocViewer.Proofs.Browser.PlainPages
import DocViewer.Proofs.Browser.Runs
import DocViewer.Proofs.Browser.Showing
import DocViewer.Proofs.Browser.Snapshots
import DocViewer.Proofs.Browser.Visiting
import DocViewer.Proofs.CommandLine.TermList
import DocViewer.Proofs.Dialogue
import DocViewer.Proofs.Html.Anchors
import DocViewer.Proofs.Html.Contents
import DocViewer.Proofs.Html.ContentsTable
import DocViewer.Proofs.Html.EscapedTitle
import DocViewer.Proofs.Html.Escaping
import DocViewer.Proofs.Html.Retagging
import DocViewer.Proofs.Html.Tags
import DocViewer.Proofs.Html.TitleElement
import DocViewer.Proofs.Link.Hovers
import DocViewer.Proofs.Link.References
import DocViewer.Proofs.Man
import DocViewer.Proofs.Output.Calls
import DocViewer.Proofs.Output.Copying
import DocViewer.Proofs.Output.Viewport
import DocViewer.Proofs.Output.Writing
import DocViewer.Proofs.Stl.Cells
import DocViewer.Proofs.Stl.Display
import DocViewer.Proofs.Stl.Entries
import DocViewer.Proofs.Stl.Index
import DocViewer.Proofs.Stl.PageTitle
import DocViewer.Proofs.Stl.Rows
import DocViewer.Proofs.Stl.Strings
import DocViewer.Proofs.Stl.Terms
import DocViewer.Proofs.Text.Blank
import DocViewer.Proofs.Text.Columns
import DocViewer.Proofs.Text.Decoding
import DocViewer.Proofs.Text.Erasing
import DocViewer.Proofs.Text.Lines
import DocViewer.Proofs.Text.Literals
import DocViewer.Proofs.Text.Overstrike
import DocViewer.Proofs.Text.Searching
import DocViewer.Proofs.Text.Spelling
import DocViewer.Proofs.World
import DocViewer.Stl.Entry
import DocViewer.Stl.Index
import DocViewer.Stl.Page
import DocViewer.Text.Alphanumeric
import DocViewer.Text.Basic
import DocViewer.Text.Blank
import DocViewer.Text.Digit
import DocViewer.Text.Letters
import DocViewer.Text.Lines
import DocViewer.Text.Overstrike
import DocViewer.Text.Printable
import DocViewer.Text.Quoted
import DocViewer.Text.Utf8
import DocViewer.Tool
import DocViewer.World
