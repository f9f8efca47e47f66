import DocViewer.Host.Script.Running
import DocViewer.World

/-!
# The host

A host stands for the programs that the viewer starts, which are not a part of it: a few small programs and a shell,
which also runs the scripts on its disk, and no network. The viewer knows of a program only what it prints, what it
leaves on the disk and how it ends, and what is proved of the viewer holds for all `Tools`, of which a host (`tools`) is
one.
-/

namespace DocViewer.Host

/-- How deep statements, functions and programs may be nested. -/
def nesting : Nat := 200000

/-- Runs a command in an environment. A text with a null character cannot be passed to a program. -/
def perform (environment : List (Text × Text)) (d : Disk) (c : Command) : Except Fault (Captured × Disk) :=
  if (c.program :: c.args).any (·.contains '\x00') then .error .nulInArgument
  else do
    let passed := environment.map fun (name, value) => (argumentOf name, argumentOf value)
    let furnished := furnished d
    let ready ← searched furnished passed false c.program (c.args.map argumentOf)
    let streams : Array Stream := #[.source (c.stdin.getD []), .sink [] none, .sink [] none]
    let p : Process := { system := { disk := furnished, streams }, descriptors := [(0, 0), (1, 1), (2, 2)] }
    let (status, p) := start (Script.startShell (Script.run nesting)) startDepth passed ready p
    let captured := { stdout := p.system.collected 1, stderr := p.system.collected 2, status }
    return (captured, { cleared d p.system.disk with home := d.home })

def tools (environment : List (Text × Text)) : Tools := fun _ d c =>
  match perform environment d c with
  | .ok (captured, d) => (.ok captured, d)
  | .error fault => (.error fault, d)

/-- No request is answered. -/
def fetcher : Fetcher := fun _ _ => .refused "no network".toList

/-- The environment of a process on the host, if nothing else is set. -/
def environment : List (Text × Text) := [("PATH".toList, "/usr/bin:/bin".toList), ("LC_ALL".toList, "C".toList)]

end DocViewer.Host
