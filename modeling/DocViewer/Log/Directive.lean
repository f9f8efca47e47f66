import DocViewer.Log.Filter
import DocViewer.Log.ValuePattern
import DocViewer.Text.Blank
import DocViewer.Text.Utf8

/-!
# Directives

The rules of a filter are written as directives with commas between them (`Filter.ofText?`). A directive is a level, or
it starts with the name of a source, or with a span in brackets, whose fields stand in braces, or with both, and ends
with `=` and a level, or with neither: `warn`, `gman::stl=debug`, `gman[{term}]=off`. There are no spans, so a directive
that names one, or asks for the value of a field, is read but sets no rule.

The places of the signs in a directive are found without the white space around it, but its parts are cut out at those
places with the white space in front still there.
-/

namespace DocViewer.Log

/-- A field that a directive asks for, and whether it asks for its value. -/
structure FieldRequest where
  name : Text
  hasValue : Bool

structure Directive where
  source : Option Text := none
  /-- Whether a span is named. -/
  hasSpan : Bool := false
  fields : List FieldRequest := []
  /-- Without a level every level is written. -/
  level : Option Level := some .trace

/-- The rule that a directive sets. -/
def Directive.rule? (d : Directive) : Option Rule :=
  if d.hasSpan || d.fields.any (·.hasValue) then none
  else some { source := d.source, fields := d.fields.map (·.name), level := d.level }

/-! ## Levels -/

/-- A number in decimal digits, with a plus sign or without. -/
def number? : Text → Option Nat
  | '+' :: digits => if digits.all Char.isDigit then (String.ofList digits).toNat? else none
  | digits => if digits.all Char.isDigit then (String.ofList digits).toNat? else none

/-- The level that a text names, in any case, or by its rank. Zero and `off` mean none at all. -/
def levelOf? (t : Text) : Option (Option Level) :=
  let name := String.ofList t
  match number? t with
  | some 0 => some none
  | some n => (Level.all.find? fun level => level.rank = n).map some
  | none => if name.toUpper = "OFF" then some none else (Level.ofName? name).map some

/-- The level after an equals sign; no text means every level. -/
def levelAfter? (t : Text) : Option (Option Level) := if t.isEmpty then some (some .trace) else levelOf? t

/-! ## Parts -/

/-- The characters with their places, counted in bytes. -/
def placesFrom (n : Nat) : Text → List (Nat × Char)
  | [] => []
  | c :: t => (n, c) :: placesFrom (n + (encode [c]).length) t

/-- What stands from one place to another. -/
def cut (t : Text) (first last : Nat) : Text :=
  ((placesFrom 0 t).filter fun (n, _) => first ≤ n && n < last).map (·.2)

/-- What stands from a place on. -/
def cutFrom (t : Text) (first : Nat) : Text := ((placesFrom 0 t).filter fun (n, _) => first ≤ n).map (·.2)

/-- The field between braces: a name, or a name and a pattern with `=` between them. -/
def fieldRequest? (t : Text) : Option FieldRequest :=
  match t, t.splitOn '=' with
  | [], _ => none
  | _, [] => none
  | _, [name] => some ⟨name, false⟩
  | _, name :: pattern :: _ => if isValuePattern pattern then some ⟨name, true⟩ else none

/-- How far a directive has been read; the numbers are the places where the parts at hand start. -/
inductive Progress
  | start
  /-- In a level or the name of a source. -/
  | name (first : Nat)
  | span (first : Nat)
  | field (first : Nat)
  | fieldsEnded
  | spanEnded
  | level (first : Nat)

/-- Reads one more character. -/
def Progress.step (whole : Text) (d : Directive) (place : Nat) (c : Char) : Progress → Option (Progress × Directive)
  | .start =>
    if c = '[' then some (.span (place + 1), d)
    else if isAlphanumeric c || "-:_".toList.contains c then some (.name place, d)
    else none
  | .name first =>
    if c = '=' then some (.level (place + 1), { d with source := some (cut whole first place) })
    else if c = '[' then some (.span (place + 1), { d with source := some (cut whole first place) })
    else some (.name first, d)
  | .span first =>
    if c = ']' then some (.spanEnded, { d with hasSpan := true })
    else if c = '\x7b' then some (.field (place + 1), { d with hasSpan := !(cut whole first place).isEmpty })
    else some (.span first, d)
  | .field first =>
    if c = '\x7d' then
      (fieldRequest? (cut whole first place)).map fun request =>
        (.fieldsEnded, { d with fields := d.fields ++ [request] })
    else some (.field first, d)
  | .fieldsEnded => if c = ']' then some (.spanEnded, d) else none
  | .spanEnded => if c = '=' then some (.level (place + 1), d) else none
  | .level first => some (.level first, d)

/-- The directive when there is nothing more to be read. -/
def Progress.finish (whole : Text) (d : Directive) : Progress → Option Directive
  | .name first =>
    let name := cutFrom whole first
    match levelOf? name with
    | some least => some { d with level := least }
    | none => some { d with source := some name }
  | .level first => (levelAfter? (cutFrom whole first)).map fun least => { d with level := least }
  | .spanEnded => some d
  | _ => none

/-- Reads a directive. -/
def Directive.ofText? (whole : Text) : Option Directive := do
  let read : Progress × Directive → Nat × Char → Option (Progress × Directive) :=
    fun (p, d) (place, c) => p.step whole d place c
  let (progress, d) ← (placesFrom 0 (trim whole)).foldlM read (.start, {})
  progress.finish whole d

/-- A filter from directives with commas between them; none if one of them is malformed. Without directives only errors
are written. -/
def Filter.ofText? (t : Text) : Option Filter :=
  match (t.splitOn ',').filter (!·.isEmpty) with
  | [] => some (.upTo .error)
  | texts => (texts.mapM Directive.ofText?).map (·.filterMap Directive.rule?)

end DocViewer.Log
