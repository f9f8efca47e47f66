import DocViewer.Config
import DocViewer.Log.Settings

/-!
# Invocations

What one run of the program is asked to do: a task, and the options that go with it.
-/

namespace DocViewer.CommandLine

inductive Task
  /-- Shows what the words refer to. -/
  | search (words : List Text)
  /-- Follows a link on a page. -/
  | follow (link : Text) (page : Option Text)
  /-- Lists the terms of the library. -/
  | terms
  /-- Reads requests from the input. -/
  | shell
  deriving DecidableEq

structure Invocation where
  task : Task
  config : Config
  log : Log.Settings
  /-- The file that pages are written to, in place of the output. -/
  output : Option Text
  deriving DecidableEq

/-- Why there is nothing to run. -/
inductive Stop
  | help
  | version
  | usage
  deriving DecidableEq

end DocViewer.CommandLine
