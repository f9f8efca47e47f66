import DocViewer.Host.Program.Basic
import DocViewer.Host.Script.Expansion

/-!
# Redirections

The targets of redirections are expanded first, and then opened one after the other. What the descriptors led to before
is given back when the statement ends.
-/

namespace DocViewer.Script

open Host

/-- Where a descriptor is to lead. -/
inductive Target
  | file (mode : Process.Mode) (name : Text)
  | descriptor (source : Nat)
  | closed
  /-- What follows the statement in the script; it is expanded as it is opened. -/
  | document (word : Word)

/-- Expands the target of a redirection. -/
def targetOf (substitute : Substitute) : Redirection → Act (Nat × Target)
  | .read d w => return (d, .file .read (← expandText substitute w))
  | .write d w => do
    let name ← expandText substitute w
    return (d, .file (if (← get).flags.contains 'C' then .createNew else .create) name)
  | .overwrite d w => return (d, .file .create (← expandText substitute w))
  | .append d w => return (d, .file .append (← expandText substitute w))
  | .update d w => return (d, .file .update (← expandText substitute w))
  | .duplicate d w => do
    match ← expandText substitute w with
    | ['-'] => return (d, .closed)
    | [c] => if c.isDigit then return (d, .descriptor (c.toNat - '0'.toNat)) else badDescriptor
    | _ => badDescriptor
  | .document d number => do
    let word := ((← get).documents.lookup number).getD []
    return (d, .document word)
where
  badDescriptor : Act (Nat × Target) := fail "Syntax error: Bad fd number".toList

/-- What a message says about a file that cannot be opened. -/
def openFault (mode : Process.Mode) (fault : Fault) : Text :=
  if fault = .missing || fault = .notADirectory then
    if mode = .read then "No such file".toList else "Directory nonexistent".toList
  else faultText fault

/-- Makes a descriptor lead to a target. -/
def redirect (substitute : Substitute) (descriptor : Nat) (target : Target) : Act Unit := do
  let p := (← get).toProcess
  match target with
  | .closed => modifyProcess (·.detach descriptor)
  | .document word =>
    let text ← expandDocument substitute word
    modifyProcess (·.openStream descriptor (.source (narrow text)))
  | .descriptor source =>
    if source ≠ descriptor then
      match p.streamOf? source with
      | some id => modifyProcess (·.attach descriptor id)
      | none => fail (decimal source ++ ": Bad file descriptor".toList)
  | .file mode name =>
    match p.openFile mode (pathOf name) with
    | .ok (id, p) => modifyProcess fun _ => p.attach descriptor id
    | .error fault =>
      let verb := if mode = .read then "open" else "create"
      fail ("cannot ".toList ++ verb.toList ++ ' ' :: name ++ ": ".toList ++ openFault mode fault)

/-- Opens redirections one after the other. -/
def redirectAll (substitute : Substitute) : List (Nat × Target) → Act Unit
  | [] => return
  | (descriptor, target) :: targets => do
    redirect substitute descriptor target
    redirectAll substitute targets

/-- Opens redirections; whether that was possible. -/
def tryRedirect (substitute : Substitute) (targets : List (Nat × Target)) : Act Bool := do
  match ← attempt (redirectAll substitute targets) with
  | .ok () => return true
  | .error .failed => return false
  | .error jump => throw jump

/-- Gives descriptors back what they led to before. -/
def giveBack (p before : Process) (descriptors : List Nat) : Process :=
  descriptors.foldl
    (fun p descriptor => match before.streamOf? descriptor with
      | some id => p.attach descriptor id
      | none => p.detach descriptor)
    p

end DocViewer.Script
