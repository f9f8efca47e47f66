import DocViewer.Host.Program.Basic

/-!
# Counting lines, words and bytes

`wc` prints what a file has of each kind in columns of one width, which depends on the sizes of the files.
-/

namespace DocViewer.Host

/-- What is counted in a file. A character is a byte; a word is a longest stretch without blanks. -/
structure Counts where
  lines : Nat := 0
  words : Nat := 0
  bytes : Nat := 0
  /-- The width of the widest line. -/
  longest : Nat := 0

/-- The counts so far, whether the last byte belongs to a word, and the width of the line at hand. -/
structure Counting where
  counts : Counts := {}
  inWord : Bool := false
  column : Nat := 0

def Counting.step (s : Counting) (b : UInt8) : Counting :=
  let c := { s.counts with bytes := s.counts.bytes + 1 }
  let endLine (c : Counts) : Counting :=
    { counts := { c with longest := max c.longest s.column }, inWord := false, column := 0 }
  if b = 10 then endLine { c with lines := c.lines + 1 }
  else if b = 12 || b = 13 then endLine c
  else if b = 9 then { counts := c, inWord := false, column := s.column + 8 - s.column % 8 }
  else if b = 32 then { counts := c, inWord := false, column := s.column + 1 }
  else if b = 11 then { counts := c, inWord := false, column := s.column }
  else
    { counts := if s.inWord then c else { c with words := c.words + 1 }
      inWord := true
      column := if 32 < b && b < 127 then s.column + 1 else s.column }

def Counts.ofBytes (b : Bytes) : Counts :=
  let s := b.foldl Counting.step {}
  { s.counts with longest := max s.counts.longest s.column }

def Counts.add (a b : Counts) : Counts :=
  ⟨a.lines + b.lines, a.words + b.words, a.bytes + b.bytes, max a.longest b.longest⟩

/-- The columns that the letters of options ask for, in the order in which they are printed. -/
def Counts.columns (letters : List Char) (c : Counts) : List Nat :=
  let all := [('l', c.lines), ('w', c.words), ('m', c.bytes), ('c', c.bytes), ('L', c.longest)]
  let asked := if letters.isEmpty then ['l', 'w', 'c'] else letters
  (all.filter fun (letter, _) => asked.contains letter).map (·.2)

def wcVocabulary : Vocabulary where
  short := "clLmw".toList.map (·, false)
  long := [("bytes", .never, 'c'), ("chars", .never, 'm'), ("lines", .never, 'l'), ("words", .never, 'w'),
    ("max-line-length", .never, 'L'), ("total", .always, 't')]

/-- When the line of totals is printed. -/
inductive TotalRule
  | auto
  | always
  | only
  | never
  deriving DecidableEq

def totalRules : List (String × TotalRule) :=
  [("auto", .auto), ("always", .always), ("only", .only), ("never", .never)]

/-- The size of the file that an operand names; none for what is no file. -/
def operandSize (p : Process) (operand : Text) : Except Fault (Option Nat) :=
  if operand = ['-'] then
    match (p.streamOf? 0).map p.system.stream with
    | some (.file place ..) => .ok (some (p.system.fileData place).length)
    | some _ => .ok none
    | none => .error .badDescriptor
  else if pathOf operand = "/dev/null".toList || (Process.deviceDescriptor? (pathOf operand)).isSome then .ok none
  else (p.system.disk.find (pathOf operand)).map fun
    | .file data _ => some data.length
    | .unreadable _ => none
    | .directory => none

/-- The width of the columns. -/
def columnWidth (p : Process) (columns : Nat) (files : List Text) : Nat :=
  if files.length ≤ 1 && columns = 1 then 1
  else
    let sizes := files.filterMap fun file => (operandSize p file).toOption
    let total := (sizes.map fun size => size.getD 0).foldl (· + ·) 0
    max (decimal total).length (if sizes.any Option.isNone then 7 else 1)

def padLeft (width n : Nat) : Text :=
  let digits := decimal n
  List.replicate (width - digits.length) ' ' ++ digits

/-- A line of counts. -/
def countLine (width : Nat) (letters : List Char) (c : Counts) (name : Text) : Text :=
  [' '].intercalate ((c.columns letters).map (padLeft width)) ++ (if name.isEmpty then [] else ' ' :: name) ++ ['\n']

/-- Counts in files, after the lines printed already and the total so far. -/
def countAll (program : Text) (row : Counts → Text → Text) (out : Text) (total : Counts) (failed : Bool) :
    List Text → Process → Text × Counts × Bool × Process
  | [], p => (out, total, failed, p)
  | file :: files, p =>
    let complain (p : Process) (fault : Fault) : Text × Process :=
      let (left, p) := p.flush 1 (narrow out)
      (wide left, p.warn (messageOf program (shownName file ++ ": ".toList ++ faultText fault)))
    match openOperand p file with
    | .error fault =>
      let (out, p) := complain p fault
      countAll program row out total true files p
    | .ok (descriptor, p) =>
      match p.readAll descriptor with
      | .ok (b, p) =>
        let counts := Counts.ofBytes b
        countAll program row (out ++ row counts file) (total.add counts) failed files p
      | .error fault =>
        let (out, p) := complain p fault
        countAll program row (out ++ row {} file) total true files p

/-- The rule for totals that the options give, if it is one. -/
def totalRule? (options : List (Char × Text)) : Option TotalRule :=
  match (options.reverse.find? (·.1 = 't')) with
  | some (_, value) => (totalRules.find? fun (name, _) => !value.isEmpty && value.isPrefixOf name.toList).map (·.2)
  | none => some .auto

def wc : Program := fun program args p =>
  match wcVocabulary.read args with
  | .error message => misused program message 1 p
  | .ok given =>
    match totalRule? given.options with
    | none => misused program "invalid argument for '--total'".toList 1 p
    | some rule =>
      let letters := (given.options.map (·.1)).filter (· ≠ 't')
      let files := if given.operands.isEmpty then [['-']] else given.operands
      let width := if rule = .only then 1 else columnWidth p (({} : Counts).columns letters).length files
      let row (c : Counts) (name : Text) : Text :=
        if rule = .only then [] else countLine width letters c (if given.operands.isEmpty then [] else name)
      let (out, total, failed, p) := countAll program row [] {} false files p
      let summed := rule = .always || rule = .only || (rule = .auto && 1 < files.length)
      let last := if summed then countLine width letters total (if rule = .only then [] else "total".toList) else []
      finish program (narrow (out ++ last)) failed p

end DocViewer.Host
