import DocViewer.Text.Basic

/-!
# Patterns

A pattern matches whole texts: `*` stands for any text, `?` for one character, and brackets for one of several. Quoted
characters stand for themselves, and so does a character after a backslash. `suffixMatches` tells at once for every end
of a text whether a pattern matches it.
-/

namespace DocViewer.Script

/-- A character, and whether it was quoted. -/
abbrev Glyph := Char × Bool

/-- What brackets can hold. -/
inductive Member
  | range (first last : Char)
  | ofClass (name : String)

inductive Atom
  | char (c : Char)
  | any
  | many
  | oneOf (negated : Bool) (members : List Member)

def Atom.isSpecial : Atom → Bool
  | .char _ => false
  | _ => true

def isPunctuation (c : Char) : Bool := '!' ≤ c && c ≤ '~' && !c.isAlphanum

/-- The classes of characters that brackets can name. -/
def characterClasses : List (String × (Char → Bool)) :=
  [("alnum", Char.isAlphanum), ("alpha", Char.isAlpha), ("blank", fun c => c = ' ' || c = '\t'),
    ("cntrl", fun c => c < ' ' || c = '\x7f'), ("digit", Char.isDigit), ("graph", fun c => '!' ≤ c && c ≤ '~'),
    ("lower", Char.isLower), ("print", fun c => ' ' ≤ c && c ≤ '~'), ("punct", isPunctuation),
    ("space", fun c => c = ' ' || ('\t' ≤ c && c ≤ '\r')), ("upper", Char.isUpper),
    ("xdigit", fun c => c.isDigit || ('a' ≤ c.toLower && c.toLower ≤ 'f'))]

/-- A class between `[:` and `:]`, whose first bracket is left out, and what follows. -/
def classMember? : List Glyph → Option (Member × List Glyph)
  | (':', false) :: rest =>
    let (name, rest) := rest.span fun (c, _) => c.isAlpha
    let name := String.ofList (name.map (·.1))
    match rest with
    | (':', false) :: (']', false) :: rest =>
      if (characterClasses.lookup name).isSome then some (.ofClass name, rest) else none
    | _ => none
  | _ => none

/-- A character that can be quoted by a backslash before it, and what follows. -/
def literal? : List Glyph → Option (Char × List Glyph)
  | ('\\', false) :: (c, _) :: rest => some (c, rest)
  | (c, _) :: rest => some (c, rest)
  | [] => none

/-- What brackets hold, up to the closing one, which can stand first as itself. -/
def membersFrom (first : Bool) : (fuel : Nat) → List Member → List Glyph → Option (List Member × List Glyph)
  | 0, _, _ => none
  | _ + 1, _, [] => none
  | fuel + 1, done, g :: rest =>
    if g = (']', false) && !first then some (done.reverse, rest)
    else
      match if g = ('[', false) then classMember? rest else none with
      | some (m, rest) => membersFrom false fuel (m :: done) rest
      | none =>
        match literal? (g :: rest) with
        | none => none
        | some (c, rest) =>
          match rest with
          | ('-', false) :: d :: rest' =>
            if d = (']', false) then membersFrom false fuel (.range c c :: done) rest
            else
              match literal? (d :: rest') with
              | some (d, rest) => membersFrom false fuel (.range c d :: done) rest
              | none => none
          | _ => membersFrom false fuel (.range c c :: done) rest

/-- What brackets stand for, whose first one is left out, and what follows. -/
def bracket? (glyphs : List Glyph) : Option (Atom × List Glyph) :=
  let (negated, glyphs) := match glyphs with
    | ('!', false) :: rest => (true, rest)
    | _ => (false, glyphs)
  (membersFrom true (glyphs.length + 1) [] glyphs).map fun (members, rest) => (.oneOf negated members, rest)

/-- The atoms of a pattern. -/
def atomsOf : (fuel : Nat) → List Glyph → List Atom
  | 0, _ => []
  | _ + 1, [] => []
  | fuel + 1, (c, true) :: t => .char c :: atomsOf fuel t
  | fuel + 1, ('*', false) :: t => .many :: atomsOf fuel t
  | fuel + 1, ('?', false) :: t => .any :: atomsOf fuel t
  | fuel + 1, ('\\', false) :: (c, _) :: t => .char c :: atomsOf fuel t
  | fuel + 1, ('[', false) :: t =>
    match bracket? t with
    | some (atom, t) => atom :: atomsOf fuel t
    | none => .char '[' :: atomsOf fuel t
  | fuel + 1, (c, false) :: t => .char c :: atomsOf fuel t

def patternOf (glyphs : List Glyph) : List Atom := atomsOf (glyphs.length + 1) glyphs

def Member.accepts (c : Char) : Member → Bool
  | .range a b => a ≤ c && c ≤ b
  | .ofClass name => ((characterClasses.lookup name).map (· c)).getD false

def Atom.accepts (c : Char) : Atom → Bool
  | .char d => c = d
  | .any => true
  | .many => true
  | .oneOf negated members => (members.any (·.accepts c)) != negated

/-- For each place of a list whether the property holds there or later. -/
def orLater (l : List Bool) : List Bool :=
  (l.foldr (fun b (later, out) => (b || later, (b || later) :: out)) (false, [])).2

/-- For each end of a text, from the whole text to the empty one, whether the pattern matches it. -/
def suffixMatches : List Atom → Text → List Bool
  | [], t => t.map (fun _ => false) ++ [true]
  | .many :: p, t => orLater (suffixMatches p t)
  | a :: p, t => List.zipWith (fun c matched => a.accepts c && matched) t ((suffixMatches p t).drop 1) ++ [false]

/-- Whether a pattern matches the whole text. -/
def accepts (p : List Atom) (t : Text) : Bool := (suffixMatches p t).headD false

/-- The text without the shortest or longest match of a pattern at its end. -/
def stripEnd (p : List Atom) (longest : Bool) (t : Text) : Text :=
  let found := suffixMatches p t
  if longest then
    match found.findIdx? id with
    | some i => t.take i
    | none => t
  else
    match found.reverse.findIdx? id with
    | some i => t.take (t.length - i)
    | none => t

/-- The text without the shortest or longest match of a pattern at its front or its end. -/
def stripMatch (p : List Atom) (atEnd longest : Bool) (t : Text) : Text :=
  if atEnd then stripEnd p longest t else (stripEnd p.reverse longest t.reverse).reverse

end DocViewer.Script
