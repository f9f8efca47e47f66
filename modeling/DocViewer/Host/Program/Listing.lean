import DocViewer.Host.Program.Columns

/-!
# Listing directories

`ls` prints the names in directories, sorted by their bytes or by size; files that are named themselves come first.
-/

namespace DocViewer.Host

/-- What follows the names of directories and of programs. -/
structure Marks where
  directory : Text := []
  executable : Text := []

/-- How names are written. -/
inductive NameForm
  | plain
  /-- Between double quotes, with escapes. -/
  | quoted
  /-- With escapes, also for spaces. -/
  | escaped
  deriving DecidableEq

/-- A name in a form, where other characters than those that need it may be escaped too. -/
def NameForm.write (form : NameForm) (others name : Text) : Text :=
  let escape (also : Char) : Text := name.flatMap fun c =>
    if !isPrintableByte c then escapedByte c
    else if c = '\\' || c = also || others.contains c then ['\\', c]
    else [c]
  match form with
  | .plain => name
  | .quoted => '"' :: escape '"' ++ ['"']
  | .escaped => escape ' '

/-- How a directory is listed. -/
structure ListStyle where
  /-- Names that start with a dot are listed too. -/
  hidden : Bool := false
  /-- And so are the directory itself and the one above. -/
  self : Bool := false
  /-- Directories are listed as files are. -/
  plain : Bool := false
  reversed : Bool := false
  recursive : Bool := false
  bySize : Bool := false
  /-- Names that end in a tilde are left out. -/
  withoutBackups : Bool := false
  form : NameForm := .plain
  /-- Bytes that cannot be printed are shown as question marks, if they are not escaped. -/
  masked : Bool := false
  marks : Marks := {}
  layout : Layout := .single
  /-- How wide the lines are. -/
  width : Nat := 80

namespace ListStyle

def vocabulary : Vocabulary where
  short := "1aAdrpFRQNbqhkGHLmCxSB".toList.map (·, false) ++ [('w', true)]
  long := [("all", .never, 'a'), ("almost-all", .never, 'A'), ("directory", .never, 'd'), ("reverse", .never, 'r'),
    ("recursive", .never, 'R'), ("classify", .maybe, 'F'), ("file-type", .never, 'p'), ("quote-name", .never, 'Q'),
    ("literal", .never, 'N'), ("escape", .never, 'b'), ("hide-control-chars", .never, 'q'),
    ("human-readable", .never, 'h'), ("ignore-backups", .never, 'B'),
    ("width", .always, 'w')]

/-- The number in decimal digits. -/
def widthOf? (value : Text) : Option Nat :=
  if value.isEmpty || !value.all Char.isDigit then none else (String.ofList value).toNat?

def add (s : ListStyle) (letter : Char) : ListStyle :=
  match letter with
  | '1' => { s with layout := .single }
  | 'm' => { s with layout := .commas }
  | 'C' => { s with layout := .down }
  | 'x' => { s with layout := .across }
  | 'S' => { s with bySize := true }
  | 'B' => { s with withoutBackups := true }
  | 'a' => { s with hidden := true, self := true }
  | 'A' => { s with hidden := true, self := false }
  | 'd' => { s with plain := true }
  | 'r' => { s with reversed := true }
  | 'R' => { s with recursive := true }
  | 'Q' => { s with form := .quoted }
  | 'N' => { s with form := .plain }
  | 'b' => { s with form := .escaped }
  | 'q' => { s with masked := true }
  | 'p' => { s with marks := { directory := ['/'] } }
  | 'F' => { s with marks := { directory := ['/'], executable := ['*'] } }
  | _ => s

/-- The style that options ask for; an error is what is wrong with them. -/
def ofOptions : (options : List (Char × Text)) → Except Text ListStyle :=
  List.foldlM (fun s (letter, value) =>
    if letter = 'w' then
      match widthOf? value with
      | some width => .ok { s with width }
      | none => .error ("invalid line width: ".toList ++ quotedName value)
    else .ok (s.add letter)) {}

/-- The size that a directory is listed with. -/
def directorySize : Nat := 4096

def sizeOf : Entry → Nat
  | .directory => directorySize
  | .file data _ => data.length
  | .unreadable _ => 0

def sort (s : ListStyle) (names : List (Text × Entry)) : List (Text × Entry) :=
  let byName := names.mergeSort fun (a, _) (b, _) => !decide (b < a)
  let sorted := if s.bySize then byName.mergeSort fun (_, a) (_, b) => sizeOf b ≤ sizeOf a else byName
  if s.reversed then sorted.reverse else sorted

def written (s : ListStyle) (others name : Text) : Text :=
  let name := s.form.write others name
  if s.masked && s.form = .plain then name.map fun c => if isPrintableByte c then c else '?' else name

/-- A name as it is printed. -/
def label (s : ListStyle) : Text × Entry → Text
  | (name, .directory) => s.written [] name ++ s.marks.directory
  | (name, .file _ executable) => s.written [] name ++ if executable then s.marks.executable else []
  | (name, .unreadable _) => s.written [] name

def lines (s : ListStyle) (names : List (Text × Entry)) : Text := s.layout.arrange s.width (names.map s.label)

/-- The names in the directory at a place, in order. -/
def children (s : ListStyle) (d : Disk) (place : Place) : List (Text × Entry) :=
  let named := (d.children place).map fun (name, entry) => (argumentOf name, entry)
  let shown := named.filter fun (name, _) =>
    (s.hidden || name.head? ≠ some '.') && !(s.withoutBackups && name.getLast? = some '~')
  s.sort (if s.self then (['.'], .directory) :: (['.', '.'], .directory) :: shown else shown)

/-- The listing of a directory, and of those below if that is asked for, each with its path above if `titled`. -/
def blocks (s : ListStyle) (d : Disk) (titled : Bool) : (depth : Nat) → (path : Text) → Place → List Text
  | 0, _, _ => []
  | depth + 1, path, place =>
    let names := s.children d place
    let block := (if titled then s.written [':'] path ++ ":\n".toList else []) ++ s.lines names
    let below := if s.recursive then names.filter fun (name, entry) =>
        entry = .directory && name ≠ ['.'] && name ≠ ['.', '.']
      else []
    block :: below.flatMap fun (name, _) =>
      s.blocks d titled depth (Path.join path name) (pathOf name :: place)

end ListStyle

/-- How deep directories are listed. -/
def listingDepth : Nat := 1000

def ls : Program := fun program args p =>
  match ListStyle.vocabulary.read args with
  | .error message => misused program message 2 p
  | .ok given =>
    match ListStyle.ofOptions given.options with
    | .error message => (.code 2, p.warn (messageOf program message))
    | .ok s =>
      let d := p.system.disk
      let operands := if given.operands.isEmpty then [['.']] else given.operands
      let look (operand : Text) : Except Fault Entry :=
        if pathOf operand = "/dev/null".toList then .ok (.file [] false) else d.find (pathOf operand)
      let complain (operand : Text) (fault : Fault) : Process → Process :=
        (·.warn (messageOf program ("cannot access ".toList ++ quotedName operand ++ ": ".toList ++ faultText fault)))
      let (p, failed) := operands.foldl
        (fun (p, failed) operand => match look operand with
          | .ok _ => (p, failed)
          | .error fault => (complain operand fault p, true))
        (p, false)
      let found := s.sort (operands.filterMap fun operand => (look operand).toOption.map (operand, ·))
      let (directories, files) := found.partition fun (_, entry) => entry = .directory && !s.plain
      let titled := 1 < operands.length || s.recursive
      let listed := directories.flatMap fun (path, _) =>
        s.blocks d titled listingDepth path ((d.locate (pathOf path)).toOption.getD [])
      let first := if files.isEmpty then [] else [s.lines files]
      let (status, p) := finish program (narrow (['\n'].intercalate (first ++ listed))) false p
      (if failed && status = .code 0 then .code 2 else status, p)

end DocViewer.Host
