import DocViewer.Host.Script.Source

/-!
# Reading scripts

A script is read one line of statements at a time (`readLine`), as it is run. The readers of words and statements call
one another, as deep as `fuel` lets them; the length of the text bounds how deep they have to go.
-/

namespace DocViewer.Script

/-- Where the characters of a word stand. -/
inductive Quoting
  /-- Outside quotes; a word that marks the end of a document has no parameters. -/
  | bare (expands : Bool)
  /-- Between braces, outside quotes or in them. -/
  | braces (inQuotes : Bool)
  | quotes
  | document
  /-- In an expression, with so many parentheses open. -/
  | sum (depth : Nat)

namespace Quoting

/-- Characters that end a word. -/
def endsWord (c : Char) : Bool := " \t\n;&|<>()".toList.contains c

/-- Characters with a meaning of their own. -/
def isSpecial (p : Quoting) (c : Char) : Bool :=
  match p with
  | .bare _ => endsWord c || "\\'\"$\x60".toList.contains c
  | .braces false => "\\'\"$\x60\x7d".toList.contains c
  | .braces true => "\\\"$\x60\x7d".toList.contains c
  | .quotes => "\\\"$\x60".toList.contains c
  | .document => "\\$\x60".toList.contains c
  | .sum _ => "\\$\x60()".toList.contains c

def inQuotes : Quoting → Bool
  | .bare _ => false
  | .braces q => q
  | _ => true

/-- Whether a backslash before the character quotes it. -/
def quotable (p : Quoting) (c : Char) : Bool :=
  match p with
  | .bare _ => true
  | .braces false => true
  | .braces true => "$\x60\"\\\x7d".toList.contains c
  | .document => "$\x60\\".toList.contains c
  | _ => "$\x60\"\\".toList.contains c

/-- Text that stands there by itself. -/
def part (p : Quoting) (t : Text) : Part := if p.inQuotes then .quoted t else .plain t

/-- What is wrong if the script ends there, if anything is. -/
def unended? : Quoting → Option String
  | .bare _ => none
  | .document => none
  | .braces false => some "Missing '\x7d'"
  | .braces true => some "Unterminated quoted string"
  | .quotes => some "Unterminated quoted string"
  | .sum _ => some "Missing '))'"

end Quoting

/-- Statements one after the other. -/
def inSequence (before : Option Statement) (s : Statement) : Statement :=
  match before with
  | some first => .sequence first s
  | none => s

/-- How a list of statements is read. -/
inductive ListKind
  /-- With at least one statement, up to a word or sign that ends it. -/
  | inner
  /-- As `inner`, but it can be empty. -/
  | open
  /-- The statements of one line. -/
  | line
  deriving DecidableEq

/-- Text between backquotes, where a backslash quotes a dollar sign, a backquote and itself; the last character is the
first. -/
def readBackquoted (inQuotes : Bool) : (fuel : Nat) → Text → Reader Text
  | 0, _ => mistake "EOF in backquote substitution"
  | fuel + 1, taken => do
    let run ← takeRun fun c => c ≠ '\x60' && c ≠ '\\'
    let taken := run.reverse ++ taken
    match ← take with
    | some '\\' =>
      match ← take with
      | some '\n' => readBackquoted inQuotes fuel taken
      | some c =>
        let quotes := c = '$' || c = '\x60' || c = '\\' || (inQuotes && c = '"')
        readBackquoted inQuotes fuel (if quotes then c :: taken else c :: '\\' :: taken)
      | none => mistake "EOF in backquote substitution"
    | some _ => return taken
    | none => mistake "EOF in backquote substitution"

/-- Reads something from another text, and then goes on where the reader was. -/
def readWithin {α : Type} (text : Text) (line : Nat) (read : Reader α) : Reader α := do
  let outer ← get
  set { outer with text, line, ahead := none, awaited := [], replaced := [], carriesOn := none }
  let a ← read
  modify fun inner =>
    { outer with documents := inner.documents, nextDocument := inner.nextDocument }
  return a

/-- The target of a redirection, after its sign. -/
def redirectionTo (sign : String) (descriptor : Option Nat) (w : Word) : Reader Redirection := do
  let input := descriptor.getD 0
  let output := descriptor.getD 1
  match sign with
  | "<" => return .read input w
  | ">" => return .write output w
  | ">|" => return .overwrite output w
  | ">>" => return .append output w
  | "<>" => return .update input w
  | "<&" => return .duplicate input w
  | ">&" => return .duplicate output w
  | "<<-" => return .document input (← announce w.literal true !w.hasQuotes)
  | _ => return .document input (← announce w.literal false !w.hasQuotes)

/-- The sign of a redirection, whose first character is taken already. -/
def readSign (first : Char) : Reader String := do
  if first = '>' then
    if ← takeIf '>' then return ">>"
    if ← takeIf '|' then return ">|"
    if ← takeIf '&' then return ">&"
    return ">"
  if ← takeIf '<' then return if ← takeIf '-' then "<<-" else "<<"
  if ← takeIf '>' then return "<>"
  if ← takeIf '&' then return "<&"
  return "<"

/-- A sign that can be doubled, whose first character is taken already. -/
def readDoubled (c : Char) : Reader Token := do
  let once := String.ofList [c]
  return .sign (if ← takeIf c then once ++ once else once)

mutual

/-- The parts of a word after those read, the last one first. -/
def readParts : (fuel : Nat) → Quoting → List Part → Reader (List Part)
  | 0, _, _ => mistake "nested too deep"
  | fuel + 1, quoting, parts => do
    let run ← takeRun (!quoting.isSpecial ·)
    let parts := if run.isEmpty then parts else quoting.part run :: parts
    match ← peek with
    | none =>
      match quoting.unended? with
      | some message => mistake message
      | none => return parts
    | some c =>
      match quoting with
      | .bare _ => if Quoting.endsWord c then return parts
      | _ => pure ()
      let _ ← take
      match c, quoting with
      | '\x7d', .braces _ => return parts
      | '"', .quotes => return parts
      | '(', .sum depth => readParts fuel (.sum (depth + 1)) (.quoted ['('] :: parts)
      | ')', .sum (depth + 1) => readParts fuel (.sum depth) (.quoted [')'] :: parts)
      | ')', .sum 0 => if ← takeIf ')' then return parts else readParts fuel quoting (.quoted [')'] :: parts)
      | '"', _ =>
        let inside ← readParts fuel .quotes []
        let inside := match inside with
          | [.parameter ['@'] .value true] => inside
          | _ => inside ++ [.quoted []]
        readParts fuel quoting (inside ++ parts)
      | '\'', _ =>
        let inside ← takeRun (· ≠ '\'')
        match ← take with
        | some _ => readParts fuel quoting (.quoted inside :: parts)
        | none => mistake "Unterminated quoted string"
      | '\\', _ =>
        match ← take with
        | some d =>
          readParts fuel quoting ((if quoting.quotable d then .quoted [d] else .quoted ['\\', d]) :: parts)
        | none => readParts fuel quoting (.quoted ['\\'] :: parts)
      | '$', .bare false => readParts fuel quoting (.plain ['$'] :: parts)
      | '\x60', .bare false => readParts fuel quoting (.plain ['\x60'] :: parts)
      | '$', _ => readParts fuel quoting ((← readDollar fuel quoting) :: parts)
      | '\x60', _ => do
        let line := (← get).line
        let script ← readBackquoted quoting.inQuotes fuel []
        let body ← readWithin script.reverse line (readList fuel .open none)
        let body := body.getD (.simple line [] [] [])
        readParts fuel quoting (.output body quoting.inQuotes :: parts)
      | c, _ => readParts fuel quoting (quoting.part [c] :: parts)

/-- What follows a dollar sign. -/
def readDollar : (fuel : Nat) → Quoting → Reader Part
  | 0, _ => mistake "nested too deep"
  | fuel + 1, quoting => do
    match ← peek with
    | some '(' =>
      let _ ← take
      if ← takeIf '(' then
        let parts ← readParts fuel (.sum 0) []
        return .arithmetic (Word.ofReversed parts) quoting.inQuotes
      else
        let s ← get
        set { s with awaited := [], ahead := none, replaced := [], carriesOn := none }
        let body ← readList fuel .open none
        match ← nextToken fuel false false false with
        | .sign ")" => pure ()
        | t => unexpected t (some "\")\"".toList)
        modify fun inner => { inner with awaited := s.awaited, replaced := s.replaced, carriesOn := s.carriesOn }
        return .output (body.getD (.simple s.line [] [] [])) quoting.inQuotes
    | some '\x7b' =>
      let _ ← take
      readBraces fuel quoting.inQuotes
    | some c =>
      if isNameStart c then return .parameter (← takeName isNameChar fuel) .value quoting.inQuotes
      else if c.isDigit || "@*#?$!-".toList.contains c then
        let _ ← take
        return .parameter [c] .value quoting.inQuotes
      else return quoting.part ['$']
    | none => return quoting.part ['$']

/-- What follows a dollar sign and a brace. -/
def readBraces : (fuel : Nat) → (inQuotes : Bool) → Reader Part
  | 0, _ => mistake "nested too deep"
  | fuel + 1, inQuotes => do
    let special (c : Char) : Bool := "@*#?$!-".toList.contains c
    let unknown : Reader Part := do
      let _ ← readParts fuel (.braces inQuotes) []
      return .parameter [] .unknown inQuotes
    let length (name : Text) : Reader Part := do
      if ← takeIf '\x7d' then return .parameter name .length inQuotes else unknown
    let use (name : Text) : Reader Part := do
      let colon ← takeIf ':'
      match ← peek with
      | some c =>
        if c = '\x7d' && !colon then
          let _ ← take
          return .parameter name .value inQuotes
        else if "-+?=".toList.contains c then
          let _ ← take
          let word ← readParts fuel (.braces inQuotes) []
          return .parameter name (.test c colon (Word.ofReversed word)) inQuotes
        else if (c = '%' || c = '#') && !colon then
          let _ ← take
          let longest ← takeIf c
          let pattern ← readParts fuel (.braces false) []
          return .parameter name (.strip (c = '%') longest (Word.ofReversed pattern)) inQuotes
        else unknown
      | none => unknown
    match ← peek with
    | some c =>
      if isNameStart c then use (← takeName isNameChar fuel)
      else if c.isDigit then use (← takeName Char.isDigit fuel)
      else if c = '#' then
        let _ ← take
        match ← peek with
        | some d =>
          if isNameStart d then length (← takeName isNameChar fuel)
          else if d.isDigit then length (← takeName Char.isDigit fuel)
          else if special d then
            let before ← get
            let _ ← take
            if (← peek) = some '\x7d' then
              let _ ← take
              return .parameter [d] .length inQuotes
            else
              set before
              use ['#']
          else use ['#']
        | none => unknown
      else if special c then
        let _ ← take
        use [c]
      else unknown
    | none => unknown

/-- Reads the documents that were announced. -/
def readDocuments : (fuel : Nat) → List Awaited → Reader Unit
  | 0, _ => return
  | _ + 1, [] => modify fun s => { s with awaited := [] }
  | fuel + 1, a :: awaited => do
    let s ← get
    let (lines, rest) := cutDocument a false [] (s.text.length + 1) s.text
    let text := lines.reverse.flatten
    let word ←
      if a.expands then
        let parts ← readWithin text s.line (readParts fuel .document [])
        pure (Word.ofReversed parts)
      else pure [.quoted text]
    modify fun inner =>
      { inner with
        text := rest
        line := s.line + lines.length + 1
        documents := (a.number, word) :: inner.documents }
    readDocuments fuel awaited

/-- The next token of the text. -/
def readToken : (fuel : Nat) → (marks : Bool) → Reader Token
  | 0, _ => mistake "nested too deep"
  | fuel + 1, marks => do
    skipBlanks fuel
    match ← peek with
    | none =>
      readDocuments fuel (← get).awaited.reverse
      return .finish
    | some c =>
      if c = '\n' then
        let _ ← take
        readDocuments fuel (← get).awaited.reverse
        return .newline
      else if c = '&' || c = '|' || c = ';' then
        let _ ← take
        readDoubled c
      else if c = '(' || c = ')' then
        let _ ← take
        return .sign (String.ofList [c])
      else if c = '<' || c = '>' then
        let _ ← take
        return .redirection (← readSign c) none
      else
        let w := Word.ofReversed (← readParts fuel (.bare !marks) [])
        match w.plain?, ← peek with
        | some [d], some c =>
          if d.isDigit && (c = '<' || c = '>') then
            let _ ← take
            return .redirection (← readSign c) (some (d.toNat - '0'.toNat))
          else return .word w
        | _, _ => return .word w

/-- The next token: behind newlines, as a reserved word if it is one, and with names replaced for which other text
stands, if these are asked for. -/
def nextToken : (fuel : Nat) → (newlines reserved aliases : Bool) → Reader Token
  | 0, _, _, _ => mistake "nested too deep"
  | fuel + 1, newlines, reserved, aliases => do
    let s ← get
    let t ← match s.ahead with
      | some t => do
        set { s with ahead := none }
        pure t
      | none => readToken fuel false
    match t with
    | .newline => if newlines then nextToken fuel newlines reserved aliases else return t
    | .word w =>
      match if reserved then reserved? w else none with
      | some r => return .reserved r
      | none =>
        let behind := (← get).text.length
        let carried := s.carriesOn.any (behind < ·)
        if carried then modify fun s => { s with carriesOn := none }
        if (aliases || carried) && !s.aliases.isEmpty then
          if ← replaceAlias w then nextToken fuel newlines reserved aliases else return t
        else return t
    | _ => return t

/-- Statements after those read. -/
def readList : (fuel : Nat) → ListKind → Option Statement → Reader (Option Statement)
  | 0, _, _ => mistake "nested too deep"
  | fuel + 1, kind, before => do
    let t ← nextToken fuel (kind ≠ .line) true true
    match t with
    | .newline => return before
    | .finish =>
      putBack t
      return before
    | _ =>
      putBack t
      if t.endsList && (kind = .open || (kind = .inner && before.isSome)) then return before
      else
        let s ← readAndOr fuel
        let t ← nextToken fuel false false false
        match t with
        | .sign "&" => readList fuel kind (some (inSequence before (.background s)))
        | .sign ";" => readList fuel kind (some (inSequence before s))
        | .newline =>
          putBack t
          readList fuel kind (some (inSequence before s))
        | .finish =>
          putBack t
          return some (inSequence before s)
        | _ =>
          if kind = .line then unexpected t
          else
            putBack t
            return some (inSequence before s)

/-- Pipelines with connectives between them. -/
def readAndOr : (fuel : Nat) → Reader Statement
  | 0 => mistake "nested too deep"
  | fuel + 1 => do readMore fuel (← readPipeline fuel false)

/-- Goes on after a pipeline. -/
def readMore : (fuel : Nat) → Statement → Reader Statement
  | 0, _ => mistake "nested too deep"
  | fuel + 1, first => do
    match ← nextToken fuel false false false with
    | .sign "&&" => readMore fuel (.both first (← readPipeline fuel true))
    | .sign "||" => readMore fuel (.either first (← readPipeline fuel true))
    | t =>
      putBack t
      return first

def readPipeline : (fuel : Nat) → (newlines : Bool) → Reader Statement
  | 0, _ => mistake "nested too deep"
  | fuel + 1, newlines => do
    let t ← nextToken fuel newlines true true
    let negated := match t with
      | .reserved "!" => true
      | _ => false
    if !negated then putBack t
    let first ← readCommand fuel false
    let commands ← readPiped fuel [first]
    let s : Statement := match commands with
      | [s] => s
      | _ => .pipe commands.reverse
    return if negated then .negate s else s

/-- Goes on after the commands of a pipeline, the last one first. -/
def readPiped : (fuel : Nat) → List Statement → Reader (List Statement)
  | 0, _ => mistake "nested too deep"
  | fuel + 1, commands => do
    match ← nextToken fuel false false false with
    | .sign "|" => readPiped fuel ((← readCommand fuel true) :: commands)
    | t =>
      putBack t
      return commands

/-- The list between two reserved words, the first of which is read already. -/
def readBody : (fuel : Nat) → (last : Token) → Reader Statement
  | 0, _ => mistake "nested too deep"
  | fuel + 1, last => do
    let line := (← get).line
    let body ← readList fuel .inner none
    let t ← nextToken fuel false true true
    match t, last with
    | .reserved r, .reserved l => if r ≠ l then unexpected t (some last.name)
    | .sign r, .sign l => if r ≠ l then unexpected t (some last.name)
    | _, _ => unexpected t (some last.name)
    return body.getD (.simple line [] [] [])

/-- What follows `if` or `elif`. -/
def readConditional : (fuel : Nat) → Reader Statement
  | 0 => mistake "nested too deep"
  | fuel + 1 => do
    let condition ← readBody fuel (.reserved "then")
    let line := (← get).line
    let yes := (← readList fuel .inner none).getD (.simple line [] [] [])
    match ← nextToken fuel false true true with
    | .reserved "elif" => return .choose condition yes (some (← readConditional fuel))
    | .reserved "else" => return .choose condition yes (some (← readBody fuel (.reserved "fi")))
    | .reserved "fi" => return .choose condition yes none
    | t => unexpected t (some (Token.reserved "fi").name)

/-- The words of a loop up to the end of the line, the last one first. -/
def readLoopWords : (fuel : Nat) → List Word → Reader (List Word)
  | 0, _ => mistake "nested too deep"
  | fuel + 1, words => do
    match ← nextToken fuel false false false with
    | .word w => readLoopWords fuel (w :: words)
    | .newline => return words
    | .sign ";" => return words
    | t => unexpected t

/-- What follows `for`. -/
def readEach : (fuel : Nat) → (line : Nat) → Reader Statement
  | 0, _ => mistake "nested too deep"
  | fuel + 1, line => do
    let name : Option Text := match ← nextToken fuel false false false with
      | .word w => w.plain?
      | _ => none
    match name.filter isName with
    | none => mistake "Bad for loop variable"
    | some name =>
      let words ← match ← nextToken fuel true true true with
        | .reserved "in" => do
          let words ← readLoopWords fuel []
          pure (some words.reverse)
        | .sign ";" => pure none
        | t => do
          putBack t
          pure none
      match ← nextToken fuel true true true with
      | .reserved "do" => return .each line name words (← readBody fuel (.reserved "done"))
      | t => unexpected t (some (Token.reserved "do").name)

/-- The patterns of an arm from a token on, the last one first. -/
def readPatterns : (fuel : Nat) → List Word → Token → Reader (List Word)
  | 0, _, _ => mistake "nested too deep"
  | fuel + 1, patterns, t => do
    let word : Word := match t with
      | .word w => w
      | .reserved r => [.plain r.toList]
      | _ => []
    match t with
    | .finish => unexpected t (some "\")\"".toList)
    | _ => pure ()
    match ← nextToken fuel false false false with
    | .sign "|" => readPatterns fuel (word :: patterns) (← nextToken fuel false false false)
    | .sign ")" => return word :: patterns
    | t => unexpected t (some "\")\"".toList)

/-- The arms of a selection, the last one first. -/
def readArms : (fuel : Nat) → List (List Word × Option Statement) → Reader (List (List Word × Option Statement))
  | 0, _ => mistake "nested too deep"
  | fuel + 1, arms => do
    match ← nextToken fuel true true false with
    | .reserved "esac" => return arms
    | t =>
      let t ← match t with
        | .sign "(" => nextToken fuel false false false
        | t => pure t
      let patterns ← readPatterns fuel [] t
      let body ← readList fuel .open none
      let arms := (patterns.reverse, body) :: arms
      match ← nextToken fuel true true false with
      | .reserved "esac" => return arms
      | .sign ";;" => readArms fuel arms
      | t => unexpected t (some "\";;\"".toList)

/-- The redirections behind a statement, after those read, the last one first. -/
def readRedirections : (fuel : Nat) → List Redirection → Reader (List Redirection)
  | 0, _ => mistake "nested too deep"
  | fuel + 1, redirections => do
    match ← nextToken fuel false true true with
    | .redirection sign descriptor => readRedirections fuel ((← readTarget fuel sign descriptor) :: redirections)
    | t =>
      putBack t
      return redirections.reverse

/-- What follows the sign of a redirection. -/
def readTarget : (fuel : Nat) → String → Option Nat → Reader Redirection
  | 0, _, _ => mistake "nested too deep"
  | fuel + 1, sign, descriptor => do
    match ← readToken fuel (sign = "<<" || sign = "<<-") with
    | .word w => redirectionTo sign descriptor w
    | t => unexpected t

/-- A statement with reserved words or parentheses, or a simple one. -/
def readCommand : (fuel : Nat) → (newlines : Bool) → Reader Statement
  | 0, _ => mistake "nested too deep"
  | fuel + 1, newlines => do
    let t ← nextToken fuel newlines true true
    let line := (← get).line
    let compound (read : Reader Statement) : Reader Statement := do
      let body ← read
      match ← readRedirections fuel [], body with
      | [], s => return s
      | redirections, .subshell line body _ => return .subshell line body redirections
      | redirections, s => return .redirect line s redirections
    let loop (whileFails : Bool) : Reader Statement := do
      let condition ← readBody fuel (.reserved "do")
      return .loop whileFails condition (← readBody fuel (.reserved "done"))
    match t with
    | .reserved "if" => compound (readConditional fuel)
    | .reserved "while" => compound (loop false)
    | .reserved "until" => compound (loop true)
    | .reserved "for" => compound (readEach fuel line)
    | .reserved "case" => compound do
      match ← nextToken fuel false false false with
      | .word w =>
        match ← nextToken fuel true true true with
        | .reserved "in" => return .select line w (← readArms fuel []).reverse
        | t => unexpected t (some (Token.reserved "in").name)
      | t => unexpected t (some "word".toList)
    | .reserved "\x7b" => compound (readBody fuel (.reserved "\x7d"))
    | .sign "(" => compound do return .subshell line (← readBody fuel (.sign ")")) []
    | .word _ =>
      putBack t
      readSimple fuel line [] [] []
    | .redirection .. =>
      putBack t
      readSimple fuel line [] [] []
    | t => unexpected t

/-- A simple statement after its parts, the last ones first. A name and parentheses begin a function. -/
def readSimple : (fuel : Nat) → (line : Nat) → List (Text × Word) → List Word → List Redirection → Reader Statement
  | 0, _, _, _, _ => mistake "nested too deep"
  | fuel + 1, line, assignments, words, redirections => do
    match ← nextToken fuel false false words.isEmpty with
    | .word w =>
      match words, w.assignment? with
      | [], some assignment => readSimple fuel line (assignment :: assignments) words redirections
      | _, _ => readSimple fuel line assignments (w :: words) redirections
    | .redirection sign descriptor =>
      readSimple fuel line assignments words ((← readTarget fuel sign descriptor) :: redirections)
    | t =>
      match t, assignments, words, redirections with
      | .sign "(", [], [w], [] =>
        match ← nextToken fuel false false false with
        | .sign ")" => pure ()
        | t => unexpected t (some "\")\"".toList)
        match w.plain?.filter fun name => isName name && !specialCommands.any (·.toList = name) with
        | some name =>
          let line := (← get).line
          return .define line name (← readCommand fuel true)
        | none => mistake "Bad function name"
      | _, _, _, _ =>
        putBack t
        return .simple line assignments.reverse words.reverse redirections.reverse

end

/-- What is read from a script: statements, none in an empty line, or its end. -/
inductive Line
  | statement (s : Statement)
  | empty
  | finish

/-- The next line of statements. -/
def readLine (fuel : Nat) : Reader Line := do
  match ← nextToken fuel false true true with
  | .finish => return .finish
  | .newline => return .empty
  | t =>
    putBack t
    match ← readList fuel .line none with
    | some s => return .statement s
    | none => return .empty

/-- How deep the readers of a text can go. -/
def readingDepth (t : Text) : Nat := 16 * t.length + 100000

end DocViewer.Script
