import DocViewer.Disk.Tree

/-!
# Programs

A command is a program with its arguments and its input; it never passes through a shell. What the programs do is a
parameter of the library (`Tools`): it may depend on all commands run before, and may change the disk.
-/

namespace DocViewer

structure Command where
  program : Text
  args : List Text
  stdin : Option Bytes := none
  deriving DecidableEq

inductive ExitStatus
  | code (n : Nat)
  | signal (n : Nat)
  deriving DecidableEq

/-- The names of the signals that end a program. -/
def signalNames : List (Nat × String) :=
  [(1, "SIGHUP"), (2, "SIGINT"), (3, "SIGQUIT"), (4, "SIGILL"), (5, "SIGTRAP"), (6, "SIGABRT"), (7, "SIGBUS"),
    (8, "SIGFPE"), (9, "SIGKILL"), (10, "SIGUSR1"), (11, "SIGSEGV"), (12, "SIGUSR2"), (13, "SIGPIPE"), (14, "SIGALRM"),
    (15, "SIGTERM"), (16, "SIGSTKFLT"), (17, "SIGCHLD"), (18, "SIGCONT"), (19, "SIGSTOP"), (20, "SIGTSTP"),
    (21, "SIGTTIN"), (22, "SIGTTOU"), (23, "SIGURG"), (24, "SIGXCPU"), (25, "SIGXFSZ"), (26, "SIGVTALRM"),
    (27, "SIGPROF"), (28, "SIGWINCH"), (29, "SIGIO"), (30, "SIGPWR"), (31, "SIGSYS")]

def ExitStatus.message : ExitStatus → Text
  | .code n => ("exit status: " ++ toString n).toList
  | .signal n =>
    match signalNames.lookup n with
    | some name => ("signal: " ++ toString n ++ " (" ++ name ++ ")").toList
    | none => ("signal: " ++ toString n).toList

/-- What a program wrote, and how it ended. -/
structure Captured where
  stdout : Bytes
  stderr : Bytes := []
  status : ExitStatus := .code 0
  deriving DecidableEq

/-- Whether the program ended well. -/
def Captured.success (c : Captured) : Bool := c.status = .code 0

/-- The output as a text. -/
def Captured.text (c : Captured) : Text := decodeLossy c.stdout

/-- What a command does, given the commands run before it, the last one first. -/
abbrev Tools := List Command → Disk → Command → Except Fault Captured × Disk

end DocViewer
