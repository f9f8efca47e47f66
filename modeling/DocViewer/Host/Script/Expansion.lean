import DocViewer.Host.Script.Arithmetic
import DocViewer.Host.Script.Pattern

/-!
# Expansion of words

A word becomes texts in three steps: its parts are replaced by pieces of text (`expandParts`), the pieces are cut into
fields where a result that was not quoted has separators (`fieldsOf`), and a field with an unquoted pattern becomes the
paths that match it (`pathsOf`).
-/

namespace DocViewer.Script

open Host

inductive Piece
  /-- Text that is not cut. -/
  | text (text : Text) (isQuoted : Bool)
  /-- Unquoted text that is cut at separators. A null character stands between two arguments. -/
  | cut (text : Text)
  /-- Where one quoted argument ends and the next starts. -/
  | next

/-- How a statement inside a word is run: it gives its output. -/
abbrev Substitute := Statement → Act Bytes

/-- What a word is expanded for. -/
structure Purpose where
  /-- Whether it is cut into fields. -/
  fields : Bool := false
  /-- Whether a tilde at its start, and also one behind a colon, stands for a directory. -/
  tilde : Bool := true
  colons : Bool := false
  /-- Whether plain text is cut too. -/
  inner : Bool := false

/-- The text of pieces, without cutting. -/
def textOf (pieces : List Piece) : Text :=
  pieces.flatMap fun
    | .text t _ => t
    | .cut t => t
    | .next => [' ']

/-- The characters of pieces for a pattern. -/
def glyphsOf (pieces : List Piece) : List Glyph :=
  pieces.flatMap fun
    | .text t isQuoted => t.map (·, isQuoted)
    | .cut t => t.map (·, false)
    | .next => [(' ', true)]

/-- Output without the newlines at its end, and without null characters. -/
def trimOutput (t : Text) : Text := ((t.reverse.dropWhile (· = '\n')).filter (· ≠ '\x00')).reverse

/-- Plain text with the tilde at its start replaced, if it stands for a directory. `ends` tells whether the word ends
behind the text, and `colons` whether a colon ends a name. -/
def replaceTilde (colons ends : Bool) (t : Text) : Act (Option (Text × Text)) := do
  match t with
  | '~' :: rest =>
    let (name, behind) := rest.span fun c => c ≠ '/' && !(colons && c = ':')
    if behind.isEmpty && !ends then return none
    if name.isEmpty then return (← valueNamed? "HOME".toList).map (·, behind)
    else if name = "root".toList then return some ("/root".toList, behind)
    else return none
  | _ => return none

/-- The pieces of plain text. -/
def plainPieces (purpose : Purpose) (first ends : Bool) (t : Text) : Act (List Piece) := do
  let plain (t : Text) : List Piece :=
    if t.isEmpty then [] else if purpose.inner then [.cut t] else [.text t false]
  let lead (first : Bool) (ends : Bool) (t : Text) : Act (List Piece) := do
    match ← if first && purpose.tilde then replaceTilde purpose.colons ends t else pure none with
    | some (home, rest) => return .text home true :: plain rest
    | none => return plain t
  if purpose.colons then
    match t.splitOn ':' with
    | [] => return []
    | t :: more => do
      let start ← lead first (ends || !more.isEmpty) t
      let count := more.length
      let rest ← more.zipIdx.mapM fun (t, i) => do
        return .text [':'] false :: (← lead true (ends || i + 1 < count) t)
      return start ++ rest.flatten
  else lead first ends t

/-- What stands for the arguments. -/
def argumentPieces (sh : Shell) (purpose : Purpose) (star inQuotes : Bool) : List Piece :=
  if !purpose.fields then [if inQuotes then .text sh.joined true else .cut sh.joined]
  else if !inQuotes then [.cut (['\x00'].intercalate sh.arguments)]
  else if star then [.text sh.joined true]
  else (sh.arguments.map (Piece.text · true)).intersperse .next

/-- The pieces of some parts. -/
def expandParts (substitute : Substitute) : (fuel : Nat) → Purpose → List Part → Act (List Piece)
  | 0, _, _ => fail "expansion too deep".toList
  | fuel + 1, purpose, parts => do
    let result (t : Text) (inQuotes : Bool) : List Piece := [if inQuotes then .text t true else .cut t]
    let value (name : Text) (inQuotes : Bool) : Act (List Piece) := do
      let sh ← get
      match name with
      | ['@'] => return argumentPieces sh purpose false inQuotes
      | ['*'] => return argumentPieces sh purpose true inQuotes
      | _ => return result ((sh.parameter? name).getD []) inQuotes
    let single (word : List Part) : Act (List Piece) := expandParts substitute fuel {} word
    let checkSet (name : Text) (given : Option Text) : Act Unit := do
      if given.isNone && (← get).flags.contains 'u' then fail (name ++ ": parameter not set".toList)
    let expand (first ends : Bool) (part : Part) : Act (List Piece) := do
      match part with
      | .plain t => plainPieces purpose first ends t
      | .quoted t => return [.text t true]
      | .output body inQuotes => return result (trimOutput (wide (← substitute body))) inQuotes
      | .arithmetic expression inQuotes =>
        let pieces ← single expression
        return result (signed (← evaluate (textOf pieces))) inQuotes
      | .parameter name use inQuotes =>
        let given := (← get).parameter? name
        match use with
        | .value =>
          checkSet name given
          value name inQuotes
        | .length =>
          checkSet name given
          return result (decimal (given.getD []).length) inQuotes
        | .test kind colon word =>
          let isSet := given.isSome && !(colon && given = some [])
          match kind, isSet with
          | '-', false => expandParts substitute fuel { purpose with tilde := true, inner := !inQuotes } word
          | '+', true => expandParts substitute fuel { purpose with tilde := true, inner := !inQuotes } word
          | '+', false => return if inQuotes then [.text [] true] else []
          | '=', false =>
            assignNamed name (textOf (← single word))
            value name inQuotes
          | '?', false =>
            let message ←
              if word.isEmpty then pure ("parameter not set".toList ++ if colon then " or null".toList else [])
              else pure (textOf (← single word))
            fail (name ++ ": ".toList ++ message)
          | _, _ => value name inQuotes
        | .strip atEnd longest pattern =>
          checkSet name given
          let pieces ← single pattern
          let pattern := patternOf (glyphsOf pieces)
          return result (stripMatch pattern atEnd longest (given.getD [])) inQuotes
        | .unknown => fail "Bad substitution".toList
    let count := parts.length
    let pieces ← parts.zipIdx.mapM fun (part, i) => expand (i = 0) (i + 1 = count) part
    return pieces.flatten

/-- How deep expansions may be nested. -/
def depthLimit : Nat := 1000

/-! ## Fields -/

/-- Fields as they are cut: the ones that are done, the last one first, and the one at hand, its last character first,
if there is anything of it. -/
structure Cutting where
  done : List (List Glyph) := []
  field : Option (List Glyph) := none

def Cutting.add (c : Cutting) (glyphs : List Glyph) : Cutting :=
  { c with field := some (glyphs.reverse ++ c.field.getD []) }

def Cutting.endField (c : Cutting) : Cutting := { done := (c.field.getD []).reverse :: c.done, field := none }

/-- What stands before a character: a separator that ended a field, or something else. Blanks behind a separator count
for nothing, and behind a blank so does one other separator. -/
inductive LastSeparator
  | nothing
  | blank
  | separator

/-- Cuts text at separators. -/
def Cutting.cut (separators : Text) (c : Cutting) (behind : LastSeparator) : Text → Cutting
  | [] => c
  | x :: t =>
    let isBlank := x = '\x00' || ((x = ' ' || x = '\t' || x = '\n') && separators.contains x)
    if isBlank then
      match behind with
      | .nothing => if c.field.isNone then c.cut separators .nothing t else c.endField.cut separators .blank t
      | behind => c.cut separators behind t
    else if separators.contains x then
      match behind with
      | .blank => c.cut separators .separator t
      | _ => c.endField.cut separators .separator t
    else (c.add [(x, false)]).cut separators .nothing t

def Cutting.piece (separators : Text) (c : Cutting) : Piece → Cutting
  | .text t isQuoted => c.add (t.map (·, isQuoted))
  | .cut t => c.cut separators .nothing t
  | .next => c.endField

/-- The fields of pieces. -/
def fieldsOf (separators : Text) (pieces : List Piece) : List (List Glyph) :=
  let c := pieces.foldl (Cutting.piece separators) {}
  (match c.field with
    | some field => field.reverse :: c.done
    | none => c.done).reverse

/-! ## Paths -/

/-- The paths below `path` that match the names, each a pattern. -/
def matchNames (d : Disk) : List (List Glyph) → (path : Text) → List Text
  | [], path => [path]
  | name :: rest, path =>
    let join (name : Text) : Text := if rest.isEmpty then path ++ name else path ++ name ++ ['/']
    let pattern := patternOf name
    if !pattern.any (·.isSpecial) then
      matchNames d rest (join (pattern.filterMap fun
        | .char c => some c
        | _ => none))
    else
      match d.locate (pathOf (if path.isEmpty then ['.'] else path)) with
      | .error _ => []
      | .ok place =>
        if d.entry? place ≠ some .directory then []
        else
          let names := ['.'] :: ['.', '.'] :: (d.children place).map fun (name, _) => argumentOf name
          let hidden := match pattern with
            | .char '.' :: _ => true
            | _ => false
          let found := names.filter fun n => accepts pattern n && (hidden || n.head? ≠ some '.')
          (found.mergeSort fun a b => !decide (b < a)).flatMap fun n => matchNames d rest (join n)

/-- The paths that match a field, or its text if there are none. -/
def pathsOf (d : Disk) (field : List Glyph) : List Text :=
  let text := field.map (·.1)
  if !field.any (fun (c, isQuoted) => !isQuoted && (c = '*' || c = '?' || c = '[')) then [text]
  else if !(patternOf field).any (·.isSpecial) then [text]
  else
    let found := (matchNames d (field.splitOn ('/', false)) []).filter fun path => (d.find (pathOf path)).toBool
    if found.isEmpty then [text] else found

/-! ## Words -/

/-- The texts of a word. -/
def expandWord (substitute : Substitute) (word : Word) : Act (List Text) := do
  let pieces ← expandParts substitute depthLimit { fields := true } word
  let sh ← get
  let fields := fieldsOf sh.separators pieces
  return if sh.flags.contains 'f' then fields.map fun field => field.map (·.1)
    else fields.flatMap (pathsOf sh.system.disk)

/-- The texts of some words. -/
def expandWords (substitute : Substitute) (words : List Word) : Act (List Text) := do
  return (← words.mapM (expandWord substitute)).flatten

/-- The single text of a word. -/
def expandText (substitute : Substitute) (word : Word) : Act Text := do
  return textOf (← expandParts substitute depthLimit {} word)

/-- The single text of the value of an assignment. -/
def expandValue (substitute : Substitute) (word : Word) : Act Text := do
  return textOf (← expandParts substitute depthLimit { colons := true } word)

/-- The single text of a whole assignment, where the value starts behind the equals sign. -/
def expandAssignment (substitute : Substitute) (name : Text) (value : Word) : Act Text := do
  return name ++ '=' :: (← expandValue substitute value)

/-- The text of a document. -/
def expandDocument (substitute : Substitute) (word : Word) : Act Text := do
  return textOf (← expandParts substitute depthLimit { tilde := false } word)

/-- The pattern that a word is. -/
def expandPattern (substitute : Substitute) (word : Word) : Act (List Atom) := do
  return patternOf (glyphsOf (← expandParts substitute depthLimit {} word))

end DocViewer.Script
