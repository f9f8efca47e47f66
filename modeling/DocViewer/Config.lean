import DocViewer.Disk.Tree

/-!
# Configuration

Where the documentation and the programs are.
-/

namespace DocViewer

structure Config where
  /-- The directory of the pages of the library. -/
  stlRoot : Text := "/usr/share/doc/stl-manual/html/".toList
  /-- The page there that lists the terms. -/
  stlIndex : Text := "stl_index.html".toList
  /-- The program that turns sources of manual pages into HTML; without one they are shown as plain text. -/
  formatter : Option Text := some "/usr/bin/rman".toList
  manProgram : Text := "man".toList
  /-- The sections searched when none is given, in order of priority. -/
  sections : Text := "2:3".toList
  deriving DecidableEq

/-- The formatter, if there is such a file. -/
def Config.availableFormatter (c : Config) (d : Disk) : Option Text := c.formatter.filter d.isFile

end DocViewer
