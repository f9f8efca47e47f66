import DocViewer.Text.Basic

/-!
# Paths

A path is a text: names separated by slashes. It starts at the root of the disk if it starts with a slash, and at the
working directory otherwise. Paths are kept as they are given.
-/

namespace DocViewer.Path

/-- The names of a path, among them an empty one at each end that has a slash and between two slashes. -/
def names (path : Text) : List Text := path.splitOn '/'

def isAbsolute (path : Text) : Bool := path.head? = some '/'

/-- The path of `path` seen from `root`: an absolute path replaces the root. -/
def join (root path : Text) : Text :=
  if isAbsolute path then path
  else if root.isEmpty || root.getLast? = some '/' then root ++ path
  else root ++ '/' :: path

end DocViewer.Path
