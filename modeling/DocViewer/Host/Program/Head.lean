import DocViewer.Host.Program.Basic

/-!
# The first part of files

`head` prints the first lines or bytes of files, or all but the last ones. It reads no further than it has to: a file
that is its input is left behind what was printed, other input behind the last block that was read.
-/

namespace DocViewer.Host

/-- How much of a file is printed. -/
inductive Extent
  | lines (n : Nat)
  | allButLines (n : Nat)
  | bytes (n : Nat)
  | allButBytes (n : Nat)

/-- The stretches of bytes that end with the mark, and the last one. -/
def splitAtMark (mark : UInt8) (b : Bytes) : List Bytes :=
  let (done, line) := b.foldl
    (fun (done, line) x => if x = mark then ((x :: line).reverse :: done, []) else (done, x :: line))
    (([] : List Bytes), ([] : Bytes))
  (if line.isEmpty then done else line.reverse :: done).reverse

def Extent.cut (mark : UInt8) (b : Bytes) : Extent → Bytes
  | .lines n => ((splitAtMark mark b).take n).flatten
  | .allButLines n => let ls := splitAtMark mark b; (ls.take (ls.length - n)).flatten
  | .bytes n => b.take n
  | .allButBytes n => b.take (b.length - n)

/-- How many bytes are read at once. -/
def blockSize : Nat := 8192

/-- How many bytes are read to print a part of what is left; `rewinds` tells whether what was not needed is put back. -/
def Extent.consumed (e : Extent) (rewinds : Bool) (whole printed : Bytes) : Nat :=
  match e with
  | .lines 0 => 0
  | .lines _ =>
    if rewinds then printed.length
    else min whole.length ((printed.length + blockSize - 1) / blockSize * blockSize)
  | .bytes _ => printed.length
  | .allButLines _ => if rewinds then printed.length else whole.length
  | .allButBytes _ => if rewinds then printed.length else whole.length

/-! ## Arguments -/

/-- The powers that letters behind a number stand for. -/
def unitPowers : List (Char × Nat) :=
  [('K', 1), ('k', 1), ('M', 2), ('m', 2), ('G', 3), ('T', 4), ('P', 5), ('E', 6), ('Z', 7), ('Y', 8), ('R', 9),
    ('Q', 10)]

/-- A power, by multiplying. -/
def scale (base : Nat) : Nat → Nat
  | 0 => 1
  | n + 1 => base * scale base n

/-- What a unit multiplies a number with: `b` with blocks of 512, other letters with powers of 1024, or of 1000 if a `B`
follows. -/
def unit? : Text → Option Nat
  | [] => some 1
  | ['b'] => some 512
  | c :: rest =>
    (unitPowers.lookup c).bind fun power =>
      match rest with
      | [] => some (scale 1024 power)
      | ['B'] => some (scale 1000 power)
      | ['D'] => some (scale 1000 power)
      | ['i', 'B'] => some (scale 1024 power)
      | _ => none

/-- A number with a unit; a unit alone counts once. -/
def count? (t : Text) : Option Nat :=
  let t := t.dropWhile fun c => c = ' ' || ('\t' ≤ c && c ≤ '\r')
  let (signed, t) := match t with
    | '+' :: t => (true, t)
    | t => (false, t)
  let (digits, rest) := t.span Char.isDigit
  let number := (String.ofList digits).toNat?
  if number.isNone && (signed || rest.isEmpty) then none
  else (unit? rest).map (number.getD 1 * ·)

/-- How much the value of an option asks for. -/
def extent? (lines : Bool) (value : Text) : Except Text Extent :=
  let (butLast, amount) := match value with
    | '-' :: amount => (true, amount)
    | amount => (false, amount)
  match count? amount, lines, butLast with
  | some n, true, true => .ok (.allButLines n)
  | some n, true, false => .ok (.lines n)
  | some n, false, true => .ok (.allButBytes n)
  | some n, false, false => .ok (.bytes n)
  | none, true, _ => .error ("invalid number of lines: '".toList ++ amount ++ "'".toList)
  | none, false, _ => .error ("invalid number of bytes: '".toList ++ amount ++ "'".toList)

/-- What the arguments ask for. -/
structure HeadRequest where
  extent : Extent := .lines 10
  /-- Whether each file has a title; if not given, only several files have. -/
  titles : Option Bool := none
  mark : UInt8 := 10
  files : List Text := []

namespace HeadRequest

def vocabulary : Vocabulary where
  short := [('c', true), ('n', true), ('q', false), ('v', false), ('z', false)] ++ "0123456789".toList.map (·, false)
  long := [("bytes", .always, 'c'), ("lines", .always, 'n'), ("quiet", .never, 'q'), ("silent", .never, 'q'),
    ("verbose", .never, 'v'), ("zero-terminated", .never, 'z')]

/-- What is wrong with the arguments, and whether a hint at help follows. -/
abbrev Misuse := Text × Bool

def add (r : HeadRequest) (letter : Char) (value : Text) : Except Misuse HeadRequest :=
  let sized (lines : Bool) : Except Misuse HeadRequest :=
    match extent? lines value with
    | .ok extent => .ok { r with extent }
    | .error message => .error (message, false)
  match letter with
  | 'c' => sized false
  | 'n' => sized true
  | 'q' => .ok { r with titles := some false }
  | 'v' => .ok { r with titles := some true }
  | 'z' => .ok { r with mark := 0 }
  | c => .error ("invalid trailing option -- ".toList ++ [c], true)

/-- The letters behind the number of a first argument such as `-5c`: whether lines are counted, and the unit. -/
def addTrailing (r : HeadRequest) (lines : Bool) (unit : Text) : Text → Except Misuse (HeadRequest × Bool × Text)
  | [] => .ok (r, lines, unit)
  | c :: letters =>
    match c with
    | 'c' => r.addTrailing false [] letters
    | 'l' => r.addTrailing true unit letters
    | 'q' => { r with titles := some false }.addTrailing lines unit letters
    | 'v' => { r with titles := some true }.addTrailing lines unit letters
    | 'z' => { r with mark := 0 }.addTrailing lines unit letters
    | _ =>
      if "bkm".toList.contains c then r.addTrailing false [c] letters
      else .error ("invalid trailing option -- ".toList ++ [c], true)

def ofArguments (args : List Text) : Except Misuse HeadRequest := do
  let (r, args) ← match args with
    | ('-' :: c :: rest) :: others =>
      if c.isDigit then
        let (digits, letters) := (c :: rest).span Char.isDigit
        let (r, lines, unit) ← ({} : HeadRequest).addTrailing true [] letters
        match extent? lines (digits ++ unit) with
        | .ok extent => pure ({ r with extent }, others)
        | .error message => .error (message, false)
      else pure ({}, args)
    | _ => pure ({}, args)
  match vocabulary.read args with
  | .error message => .error (message, true)
  | .ok given =>
    let r ← given.options.foldlM (fun r (letter, value) => r.add letter value) r
    return { r with files := if given.operands.isEmpty then [['-']] else given.operands }

end HeadRequest

/-! ## Printing -/

/-- The line above a file; an empty line stands before all but the first. -/
def titleLine (first : Bool) (file : Text) : Text :=
  let name := if file = ['-'] then "standard input".toList else file
  (if first then [] else ['\n']) ++ "==> ".toList ++ name ++ " <==\n".toList

/-- The parts of files, after those printed already. -/
def HeadRequest.printAll (r : HeadRequest) (program : Text) (out : Bytes) (first failed : Bool) : List Text → Process →
    ExitStatus × Process
  | [], p => finish program out failed p
  | file :: files, p =>
    match openOperand p file with
    | .error fault =>
      let message := "cannot open ".toList ++ quotedName file ++ " for reading: ".toList ++ faultText fault
      let (out, p) := p.flush 1 out
      r.printAll program out first true files (p.warn (messageOf program message))
    | .ok (descriptor, p) =>
      let titled := r.titles.getD (1 < r.files.length)
      let out := if titled then out ++ narrow (titleLine first file) else out
      let first := first && !titled
      match p.remaining descriptor with
      | .error fault =>
        let name := if file = ['-'] then "standard input".toList else file
        let message := "error reading ".toList ++ quotedName name ++ ": ".toList ++ faultText fault
        let (out, p) := p.flush 1 out
        r.printAll program out first true files (p.warn (messageOf program message))
      | .ok whole =>
        let printed := r.extent.cut r.mark whole
        let p := p.skip descriptor (r.extent.consumed (p.rewinds descriptor) whole printed)
        r.printAll program (out ++ printed) first failed files p

def head : Program := fun program args p =>
  match HeadRequest.ofArguments args with
  | .error (message, true) => misused program message 1 p
  | .error (message, false) => (.code 1, p.warn (messageOf program message))
  | .ok r => r.printAll program [] true false r.files p

end DocViewer.Host
