import DocViewer.Host.Program.Basic

/-!
# Copying files

`cat` copies files to its output, and can number their lines, show their ends and make all characters visible. The state
of the copy (`Copying`) goes on from one file to the next.
-/

namespace DocViewer.Host

/-- How the copy looks. -/
structure CatStyle where
  numbers : Bool := false
  /-- Empty lines have no numbers. -/
  numbersNonempty : Bool := false
  /-- Of several empty lines only one is kept. -/
  squeezes : Bool := false
  showsEnds : Bool := false
  showsTabs : Bool := false
  showsControls : Bool := false

namespace CatStyle

def vocabulary : Vocabulary where
  short := "bestuvAETn".toList.map (·, false)
  long := [("number-nonblank", .never, 'b'), ("number", .never, 'n'), ("squeeze-blank", .never, 's'),
    ("show-nonprinting", .never, 'v'), ("show-ends", .never, 'E'), ("show-tabs", .never, 'T'),
    ("show-all", .never, 'A')]

def add (s : CatStyle) (letter : Char) : CatStyle :=
  match letter with
  | 'b' => { s with numbers := true, numbersNonempty := true }
  | 'e' => { s with showsEnds := true, showsControls := true }
  | 'n' => { s with numbers := true }
  | 's' => { s with squeezes := true }
  | 't' => { s with showsTabs := true, showsControls := true }
  | 'v' => { s with showsControls := true }
  | 'A' => { s with showsControls := true, showsEnds := true, showsTabs := true }
  | 'E' => { s with showsEnds := true }
  | 'T' => { s with showsTabs := true }
  | _ => s

end CatStyle

/-- The lines so far, and where the copy is: in a line, or at the start of one with so many empty lines before it. -/
structure Copying where
  lines : Nat := 0
  atStart : Option Nat := some 0

/-- A number in front of a line. -/
def lineNumber (n : Nat) : Text :=
  let digits := decimal n
  List.replicate (6 - digits.length) ' ' ++ digits ++ ['\t']

/-- A byte that makes control characters visible. -/
def visible (showsTabs : Bool) (c : Char) : Text :=
  let low (n : Nat) : Text :=
    if n = 127 then ['^', '?'] else if n < 32 then ['^', Char.ofNat (n + 64)] else [Char.ofNat n]
  if c = '\t' && !showsTabs then ['\t'] else if c.toNat < 128 then low c.toNat else "M-".toList ++ low (c.toNat - 128)

/-- Copies a text after what was copied, the last character first. -/
def CatStyle.copy (s : CatStyle) (cursor : Copying) (out : Text) : Text → Text × Copying
  | [] => (out, cursor)
  | '\n' :: t =>
    let empty : Nat := match cursor.atStart with
      | some n => min 2 (n + 1)
      | none => 0
    let next : Option Nat := some empty
    if empty = 2 && s.squeezes then s.copy { cursor with atStart := next } out t
    else
      let numbered := 0 < empty && s.numbers && !s.numbersNonempty
      let cursor := if numbered then { cursor with lines := cursor.lines + 1 } else cursor
      let front : Text := if numbered then lineNumber cursor.lines else []
      let line := front ++ (if s.showsEnds then ['$'] else []) ++ ['\n']
      s.copy { cursor with atStart := next } (line.reverse ++ out) t
  | c :: t =>
    let numbered := cursor.atStart.isSome && s.numbers
    let cursor := if numbered then { cursor with lines := cursor.lines + 1 } else cursor
    let front : Text := if numbered then lineNumber cursor.lines else []
    let shown : Text :=
      if s.showsControls then visible s.showsTabs c
      else if c = '\t' && s.showsTabs then ['^', 'I']
      else if c = '\r' && s.showsEnds && t.head? = some '\n' then ['^', 'M']
      else [c]
    s.copy { cursor with atStart := none } ((front ++ shown).reverse ++ out) t

/-- Copies files one after the other; whether one failed. -/
def CatStyle.copyAll (s : CatStyle) (program : Text) (cursor : Copying) (failed : Bool) :
    List Text → Process → ExitStatus × Process
  | [], p => ending (.code (if failed then 1 else 0)) p
  | file :: files, p =>
    let complain (p : Process) (fault : Fault) : Process :=
      p.warn (messageOf program (shownName file ++ ": ".toList ++ faultText fault))
    match openOperand p file with
    | .error fault => s.copyAll program cursor true files (complain p fault)
    | .ok (descriptor, p) =>
      match p.readAll descriptor with
      | .error fault => s.copyAll program cursor true files (complain p fault)
      | .ok (b, p) =>
        let (out, cursor) := s.copy cursor [] (wide b)
        match p.write 1 (narrow out.reverse) with
        | .ok p => s.copyAll program cursor failed files p
        | .error fault => (.code 1, p.warn (messageOf program ("write error: ".toList ++ faultText fault)))

def cat : Program := fun program args p =>
  match CatStyle.vocabulary.read args with
  | .error message => misused program message 1 p
  | .ok given =>
    let style := given.options.foldl (fun s (letter, _) => s.add letter) ({} : CatStyle)
    let files := if given.operands.isEmpty then [['-']] else given.operands
    let (status, p) := style.copyAll program {} false files p
    let closed := files.contains ['-'] && (p.streamOf? 0).isNone
    let fault := "closing standard input: ".toList ++ faultText .badDescriptor
    if closed then (.code 1, p.warn (messageOf program fault)) else (status, p)

end DocViewer.Host
