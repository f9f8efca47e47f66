import DocViewer.Text.Basic

/-!
# Faults of the operating system

Why a file could not be read or a program not started, with the text that the system gives for it.
-/

namespace DocViewer

inductive Fault
  | missing
  /-- The arguments of a program take more room than the system gives them. -/
  | argumentsTooLong
  /-- The file is not a program in a form that the system knows. -/
  | notAProgram
  /-- The descriptor is not open, or not open for this. -/
  | badDescriptor
  | denied
  | alreadyThere
  | notADirectory
  | isADirectory
  /-- A program that is being written to cannot be started. -/
  | busy
  | nameTooLong
  /-- Interpreters of interpreters go too deep. -/
  | tooManyLevels
  | nulInPath
  | nulInArgument
  /-- A fault of another kind, with its text. -/
  | other (message : Text)
  deriving DecidableEq

def Fault.message : Fault → Text
  | .missing => "No such file or directory (os error 2)".toList
  | .argumentsTooLong => "Argument list too long (os error 7)".toList
  | .notAProgram => "Exec format error (os error 8)".toList
  | .badDescriptor => "Bad file descriptor (os error 9)".toList
  | .denied => "Permission denied (os error 13)".toList
  | .alreadyThere => "File exists (os error 17)".toList
  | .notADirectory => "Not a directory (os error 20)".toList
  | .isADirectory => "Is a directory (os error 21)".toList
  | .busy => "Text file busy (os error 26)".toList
  | .nameTooLong => "File name too long (os error 36)".toList
  | .tooManyLevels => "Too many levels of symbolic links (os error 40)".toList
  | .nulInPath => "file name contained an unexpected NUL byte".toList
  | .nulInArgument => "nul byte found in provided data".toList
  | .other message => message

end DocViewer
