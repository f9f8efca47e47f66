import DocViewer.Text.Alphanumeric

/-!
# Patterns of values

A directive may ask for the value of a field: for a number, or for a text that matches a regular expression. Such a
directive decides about no record, but it has to be well formed. `isValuePattern` tells whether it is. A brace ends the
field, so an expression has none that is closed.
-/

namespace DocViewer.Log

/-! ## Numbers -/

/-- A number in decimal digits, with a point and an exponent or without, or the name of a number, in any case. -/
def isNumeral (t : Text) : Bool :=
  if ["inf", "infinity", "nan"].contains (String.ofList (t.map Char.toLower)) then true
  else
    let (whole, rest) := t.span Char.isDigit
    let (fraction, rest) := match rest with
      | '.' :: rest => rest.span Char.isDigit
      | rest => ([], rest)
    let exponent : Bool := match rest with
      | [] => true
      | e :: '+' :: digits => e.toLower = 'e' && !digits.isEmpty && digits.all Char.isDigit
      | e :: '-' :: digits => e.toLower = 'e' && !digits.isEmpty && digits.all Char.isDigit
      | e :: digits => e.toLower = 'e' && !digits.isEmpty && digits.all Char.isDigit
    (!whole.isEmpty || !fraction.isEmpty) && exponent

/-! ## Escapes -/

/-- What a part of an expression stands for. -/
inductive Item
  | char (c : Char)
  /-- A class of characters. -/
  | kind
  /-- A place between characters. -/
  | place

def isHexDigit (c : Char) : Bool := c.isDigit || ('a' ≤ c.toLower && c.toLower ≤ 'f')

/-- The character of a code point in so many hexadecimal digits, and what follows. -/
def codePoint? (width : Nat) (t : Text) : Option (Item × Text) :=
  let digits := t.take width
  let digit (c : Char) : Nat := if c.isDigit then c.toNat - '0'.toNat else c.toLower.toNat - 'a'.toNat + 10
  let n := digits.foldl (fun n c => n * 16 + digit c) 0
  if digits.length = width && digits.all isHexDigit && n.isValidChar then some (.char (Char.ofNat n), t.drop width)
  else none

/-- The letters after a backslash that stand for a control character. -/
def namedControls : List (Char × Char) :=
  [('a', '\x07'), ('f', '\x0c'), ('t', '\t'), ('n', '\n'), ('r', '\r'), ('v', '\x0b')]

/-- What an escape stands for, and what follows it. The boundaries of words are not supported among all scripts, and
without `unicode` there is no class that has a character beyond ASCII. -/
def escape? (unicode : Bool) : Text → Option (Item × Text)
  | [] => none
  | c :: t =>
    match namedControls.lookup c with
    | some d => some (.char d, t)
    | none =>
      if c = 'x' then codePoint? 2 t
      else if c = 'u' then codePoint? 4 t
      else if c = 'U' then codePoint? 8 t
      else if c = 'p' || c = 'P' then
        match t with
        | letter :: t => if unicode && "clmnpsz".toList.contains letter.toLower then some (.kind, t) else none
        | [] => none
      else if "dsw".toList.contains c then some (.kind, t)
      else if "DSW".toList.contains c then if unicode then some (.kind, t) else none
      else if c = 'A' || c = 'z' then some (.place, t)
      else if "bB<>".toList.contains c then if unicode then none else some (.place, t)
      else if c.toNat < 0x80 && !c.isAlphanum then some (.char c, t)
      else none

/-! ## Sets -/

/-- The names of the sets of ASCII characters. -/
def asciiSets : List String :=
  ["alnum", "alpha", "ascii", "blank", "cntrl", "digit", "graph", "lower", "print", "punct", "space", "upper", "word",
    "xdigit"]

/-- What follows `[:name:]`, where the name may follow `^`. -/
def dropAsciiSet? (t : Text) : Option Text := do
  let t ← dropPrefix? "[:".toList t
  let t := match t with
    | '^' :: t => t
    | t => t
  let (name, rest) := t.span Char.isAlpha
  if asciiSets.contains (String.ofList name) then dropPrefix? ":]".toList rest else none

/-- What follows the opening of a set: a hat, dashes, and a closing bracket that comes first stand for themselves. -/
def openSet (t : Text) : Text :=
  let t := match t with
    | '^' :: t => t
    | t => t
  let rest := t.dropWhile (· = '-')
  match rest with
  | ']' :: after => if rest.length = t.length then after else rest
  | rest => rest

/-- A character or a class in a set, and what follows. -/
def member? (unicode : Bool) : Text → Option (Item × Text)
  | [] => none
  | '\\' :: t => escape? unicode t
  | c :: t => some (.char c, t)

/-- What follows the set that `depth` more sets surround. -/
def dropSet? (unicode : Bool) : (fuel : Nat) → (depth : Nat) → Text → Option Text
  | 0, _, _ => none
  | _ + 1, _, [] => none
  | fuel + 1, depth, '[' :: t =>
    match dropAsciiSet? ('[' :: t) with
    | some rest => dropSet? unicode fuel depth rest
    | none => dropSet? unicode fuel (depth + 1) (openSet t)
  | _ + 1, 0, ']' :: t => some t
  | fuel + 1, depth + 1, ']' :: t => dropSet? unicode fuel depth t
  | fuel + 1, depth, '&' :: '&' :: t => dropSet? unicode fuel depth t
  | fuel + 1, depth, '-' :: '-' :: t => dropSet? unicode fuel depth t
  | fuel + 1, depth, '~' :: '~' :: t => dropSet? unicode fuel depth t
  | fuel + 1, depth, t => do
    let (first, rest) ← member? unicode t
    let alone : Option Text := match first with
      | .place => none
      | _ => dropSet? unicode fuel depth rest
    match rest with
    | '-' :: ']' :: _ => alone
    | '-' :: '-' :: _ => alone
    | '-' :: rest =>
      let (last, rest) ← member? unicode rest
      match first, last with
      | .char a, .char b => if a ≤ b then dropSet? unicode fuel depth rest else none
      | _, _ => none
    | _ => alone

/-! ## Expressions -/

/-- The flags of a group: those set, those unset, and what follows, which is a colon or a closing parenthesis. -/
def flags? (set unset : Text) (negated : Bool) : Text → Option (Text × Text × Text)
  | [] => none
  | ':' :: t => if negated && unset.isEmpty then none else some (set, unset, ':' :: t)
  | ')' :: t => if negated && unset.isEmpty || !negated && set.isEmpty then none else some (set, unset, ')' :: t)
  | '-' :: t => if negated then none else flags? set unset true t
  | c :: t =>
    if !"imsUuxR".toList.contains c || set.contains c || unset.contains c then none
    else if negated then flags? set (c :: unset) true t
    else flags? (c :: set) unset false t

/-- The name of a group, and what follows the bracket that ends it. -/
def groupName? (t : Text) : Option (Text × Text) :=
  let (name, rest) := t.span (· ≠ '>')
  let isStart (c : Char) : Bool := c = '_' || isAlphanumeric c && !c.isDigit
  match name, rest with
  | c :: others, _ :: rest =>
    if isStart c && others.all (fun c => isAlphanumeric c || "_.[]".toList.contains c) then some (name, rest) else none
  | _, _ => none

/-- Whether the rest of an expression is well formed: `groups` are the groups that are open, each with whether all
scripts count outside it, `names` are the names of groups so far, and `repeatable` tells whether there is something to
be repeated. -/
def isExpressionFrom : (fuel : Nat) → (groups : List Bool) → (names : List Text) → (unicode repeatable : Bool) → Text →
    Bool
  | 0, _, _, _, _, _ => false
  | _ + 1, groups, _, _, _, [] => groups.isEmpty
  | fuel + 1, groups, names, unicode, repeatable, c :: t =>
    let go := isExpressionFrom fuel
    let named (t : Text) : Bool := match groupName? t with
      | some (name, t) => !names.contains name && go (unicode :: groups) (name :: names) unicode false t
      | none => false
    match c, t with
    | '(', '?' :: 'P' :: '<' :: t => named t
    | '(', '?' :: '<' :: t => named t
    | '(', '?' :: t =>
      match flags? [] [] false t with
      | some (set, unset, mark :: t) =>
        let inside := (unicode || set.contains 'u') && !unset.contains 'u'
        if mark = ':' then go (unicode :: groups) names inside false t else go groups names inside false t
      | _ => false
    | '(', t => go (unicode :: groups) names unicode false t
    | ')', t => match groups with
      | outside :: groups => go groups names outside true t
      | [] => false
    | '|', t => go groups names unicode false t
    | '[', t =>
      if !unicode && t.head? = some '^' then false
      else match dropSet? unicode fuel 0 (openSet t) with
        | some t => go groups names unicode true t
        | none => false
    | '\\', t => match escape? unicode t with
      | some (_, t) => go groups names unicode true t
      | none => false
    | '{', _ => false
    | '.', t => unicode && go groups names unicode true t
    | c, t =>
      if !"*+?".toList.contains c then go groups names unicode true t
      else repeatable && go groups names unicode true (if t.head? = some '?' then t.drop 1 else t)

def isExpression (t : Text) : Bool := isExpressionFrom (t.length + 1) [] [] true false t

/-- Whether a text is a number or a regular expression. -/
def isValuePattern (t : Text) : Bool :=
  match t with
  | '+' :: number => isNumeral number
  | t => isExpression t

end DocViewer.Log
