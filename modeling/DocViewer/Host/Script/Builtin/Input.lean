import DocViewer.Host.Script.Builtin.Basic

/-!
# Reading lines

`read` takes one line of the input, byte by byte, and cuts it into as many fields as it has names; the last one gets all
that is left. A backslash quotes the next character, which then separates nothing, and a line that ends with one goes on
in the next line.
-/

namespace DocViewer.Script

open Host

/-- A line that was read. -/
structure InputLine where
  /-- The characters, and whether they were quoted. -/
  glyphs : List (Char × Bool)
  taken : Nat
  /-- Whether the line ends with a newline. -/
  ended : Bool

/-- Reads a line; the last character of it first in `done`. -/
def inputLine (raw : Bool) (done : List (Char × Bool)) (taken : Nat) : (quoting : Bool) → Bytes → InputLine
  | _, [] => { glyphs := done.reverse, taken, ended := false }
  | quoting, b :: left =>
    let c := wideByte b
    if c = '\x00' then inputLine raw done (taken + 1) quoting left
    else if quoting then inputLine raw (if c = '\n' then done else (c, true) :: done) (taken + 1) false left
    else if c = '\\' && !raw then inputLine raw done (taken + 1) true left
    else if c = '\n' then { glyphs := done.reverse, taken := taken + 1, ended := true }
    else inputLine raw ((c, false) :: done) (taken + 1) false left

/-- Fields as they are cut from a line. -/
structure FieldCutting where
  /-- The fields that are done, the last one first. -/
  done : List Text := []
  /-- The field at hand, its last character first. -/
  field : Text := []
  /-- How many more fields there are names for. -/
  left : Nat
  /-- Whether the last separator was a blank, so that one other separator can follow, and whether separators are
  passed over now. -/
  blank : Bool := false
  skipping : Bool := true
  /-- How long the field is without the separators at its end, which count for nothing at the end of the line. -/
  kept : Option Nat := none

def FieldCutting.step (separators : Text) (f : FieldCutting) (c : Char × Bool) : FieldCutting :=
  let (c, isQuoted) := c
  let isSeparator := !isQuoted && separators.contains c
  let isBlank := isSeparator && (c = ' ' || c = '\t' || c = '\n')
  let put (f : FieldCutting) : FieldCutting := { f with field := c :: f.field, skipping := false }
  if isQuoted then put { f with blank := false }
  else if f.left = 0 then
    let f := put f
    if isBlank then { f with kept := some (f.kept.getD (f.field.length - 1)) }
    else { f with kept := if isSeparator && f.blank then f.kept else none, blank := false }
  else if !isSeparator then put { f with blank := false }
  else if isBlank && f.skipping && f.field.isEmpty then f
  else if f.skipping && f.blank && f.field.isEmpty then { f with blank := false }
  else if f.left = 1 then { put f with left := 0, kept := some f.field.length, blank := isBlank }
  else { f with done := f.field.reverse :: f.done, field := [], left := f.left - 1, blank := isBlank, skipping := true }

/-- The fields of a line, at most as many as given. -/
def inputFields (separators : Text) (count : Nat) (glyphs : List (Char × Bool)) : List Text :=
  let f := glyphs.foldl (FieldCutting.step separators) { left := count }
  let last := match f.kept with
    | some n => f.field.reverse.take n
    | none => f.field.reverse
  (if last.isEmpty then f.done else last :: f.done).reverse

/-- Assigns fields to names; names without a field get nothing. -/
def assignFields : (names fields : List Text) → Act Unit
  | [], _ => return
  | name :: names, fields => do
    assignNamed name (fields.headD [])
    assignFields names fields.tail

def readInput : Builtin := fun args => do
  let (options, names) ← optionsOf [('p', true), ('r', false)] args
  if names.isEmpty then fail "arg count".toList
  let sh ← get
  match sh.toProcess.remaining 0 with
  | .error _ =>
    assignFields names []
    return 1
  | .ok b =>
    let line := inputLine (options.any (·.1 = 'r')) [] 0 false b
    modifyProcess (·.skip 0 line.taken)
    assignFields names (inputFields sh.separators names.length line.glyphs)
    return if line.ended then 0 else 1

end DocViewer.Script
