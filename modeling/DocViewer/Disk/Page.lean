import DocViewer.Disk.Tree
import DocViewer.Error

/-!
# Pages on the disk

A page is the text of a file. Bytes that are no text are read as replacement characters, so only a file that cannot be
read is an error.
-/

namespace DocViewer.Disk

/-- The text of the page at a path. -/
def page (d : Disk) (path : Text) : Except Error Text :=
  match d.read path with
  | .ok bytes => .ok (decodeLossy bytes)
  | .error fault => .error (.io path fault)

end DocViewer.Disk
