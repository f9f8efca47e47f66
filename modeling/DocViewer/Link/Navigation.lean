import DocViewer.Text.Basic

/-!
# Where the reader is

The URL of the page fetched last is what relative links are read against: they are put behind it as they are.
-/

namespace DocViewer

/-- The URL fetched last, if there is one. -/
structure Navigation where
  current : Option Text
  deriving DecidableEq

namespace Navigation

def new : Navigation := ⟨none⟩

def startingAt (url : Text) : Navigation := ⟨some url⟩

/-- The URL of a relative link. -/
def resolve (n : Navigation) (link : Text) : Text := n.current.getD [] ++ link

/-- The reader has moved to `url`. -/
def advance (_ : Navigation) (url : Text) : Navigation := ⟨some url⟩

end Navigation

end DocViewer
