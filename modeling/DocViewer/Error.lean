import DocViewer.Disk.Fault
import DocViewer.Output.Writer

/-!
# Errors

Why a page could not be found or shown. A search that finds nothing is no error.
-/

namespace DocViewer

inductive Error
  /-- A program could not be started. -/
  | spawn (program : Text) (fault : Fault)
  /-- A file could not be read. -/
  | io (path : Text) (fault : Fault)
  /-- A compressed file could not be inflated. -/
  | decompress (path : Text) (reason : Text)
  /-- A web page was not delivered. -/
  | fetch (url : Text) (reason : Text)
  /-- Reading a body or writing a page broke off. -/
  | stream (fault : StreamFault)
  deriving DecidableEq

def Error.message : Error → Text
  | .spawn program fault => "failed to run ".toList ++ program ++ ": ".toList ++ fault.message
  | .io path fault => "cannot read ".toList ++ path ++ ": ".toList ++ fault.message
  | .decompress path reason => "cannot decompress ".toList ++ path ++ ": ".toList ++ reason
  | .fetch url reason => "fetch of ".toList ++ url ++ " failed: ".toList ++ reason
  | .stream fault => "stream error: ".toList ++ fault.message

end DocViewer
