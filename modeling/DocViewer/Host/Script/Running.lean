import DocViewer.Host.Script.Commands

/-!
# Running statements

`run` runs a statement of a script. Its `fuel` bounds how deep statements, functions, scripts and shells may be nested;
how often a loop goes round is bounded by itself.
-/

namespace DocViewer.Script

open Host

/-- Ends the shell if the statement at hand failed, nothing tests it, and this is asked for. -/
def checkFailure (context : Context) : Act Unit := do
  let sh ← get
  if sh.flags.contains 'e' && !context.tested && sh.status ≠ 0 then throw .leave

/-! ## Loops -/

/-- Whether a loop goes on after a round. -/
def afterRound : Except Jump Unit → Act Bool
  | .ok () => return true
  | .error (.again n) => if n ≤ 1 then return true else throw (.again (n - 1))
  | .error (.stop n) => if n ≤ 1 then return false else throw (.stop (n - 1))
  | .error jump => throw jump

/-- Runs an action inside one more loop. -/
def inLoop (a : Act Unit) : Act Unit := do
  let loops := (← get).loops
  modify fun sh => { sh with loops := loops + 1 }
  let result ← attempt a
  modify fun sh => { sh with loops }
  release result

/-- How often a loop goes round at most. -/
def roundLimit : Nat := 4294967296

/-- Runs a body as long as a condition succeeds, or as long as it fails; `status` is that of the round before. -/
def runWhile (condition body : Act Unit) (whileFails : Bool) : (rounds : Nat) → (status : Nat) → Act Unit
  | 0, _ => return
  | rounds + 1, status => do
    match ← attempt condition with
    | .ok () =>
      if ((← get).status = 0) = whileFails then setStatus status
      else if ← afterRound (← attempt body) then runWhile condition body whileFails rounds (← get).status
    | result =>
      if ← afterRound result then runWhile condition body whileFails rounds status else setStatus status

/-- Runs a body for each text. -/
def runEach (name : Text) (body : Act Unit) : List Text → Act Unit
  | [] => return
  | text :: texts => do
    assign name text
    if ← afterRound (← attempt body) then runEach name body texts

/-! ## Selections -/

/-- Whether one of the patterns matches. -/
def matchesAny (go : Go) (value : Text) : List Word → Act Bool
  | [] => return false
  | word :: words => do
    if accepts (← expandPattern (substitute go) word) value then return true else matchesAny go value words

/-- The first arm with a pattern that matches. -/
def selectArm (go : Go) (value : Text) : List (List Word × Option Statement) → Act (Option Statement)
  | [] => return none
  | (patterns, body) :: arms => do
    if ← matchesAny go value patterns then return body else selectArm go value arms

/-! ## Statements -/

/-- Runs a part of the script in a process of its own. -/
def runSubshell (go : Go) (context : Context) (body : Statement) (redirections : List Redirection) : Act Unit := do
  let targets ← redirections.mapM (targetOf (substitute go))
  let status ← runChild go id do
    redirectAll (substitute go) targets
    goLast go context.tested body
  waited context.last status

/-- Runs statements in the background. They are run at once, and have nothing to read. -/
def runBackground (go : Go) (body : Statement) : Act Unit := do
  let number := (← get).system.nextProcess
  let silent (sh : Shell) : Shell := { sh with toProcess := sh.toProcess.openStream 0 .nowhere }
  let status ← runChild go silent (goLast go false body)
  modify fun sh => { sh with status := 0, background := some number, jobs := (number, status) :: sh.jobs }
  receiveWaiting

/-- Runs a statement under redirections. -/
def runRedirected (go : Go) (context : Context) (body : Statement) (redirections : List Redirection) : Act Unit := do
  let targets ← redirections.mapM (targetOf (substitute go))
  let before := (← get).toProcess
  if ← tryRedirect (substitute go) targets then
    let result ← attempt (go { tested := context.tested } body)
    afterRedirection before (targets.map (·.1)) result
    release result
  else
    modify fun sh => { sh with toProcess := giveBack sh.toProcess before (targets.map (·.1)), status := 2 }

/-- Runs one statement; `go` runs those in it. -/
def runStatement (go : Go) (context : Context) : Statement → Act Unit
  | .simple line assignments words redirections => do
    runSimple go context line assignments words redirections
    checkFailure context
  | .pipe commands => do
    let statuses ← runPipeline go context.tested commands
    receiveWaiting
    let codes ← statuses.mapM seen
    setStatus (codes.getLast?.getD 0)
    checkFailure context
  | .background body => do
    runBackground go body
    checkFailure context
  | .negate body => do
    go { tested := true } body
    modify fun sh => { sh with status := if sh.status = 0 then 1 else 0 }
  | .sequence first second => do
    go { tested := context.tested } first
    go context second
  | .both first second => do
    go { tested := true } first
    if (← get).status = 0 then go context second
  | .either first second => do
    go { tested := true } first
    if (← get).status ≠ 0 then go context second
  | .choose condition yes no => do
    go { tested := true } condition
    if (← get).status = 0 then go context yes
    else
      match no with
      | some no => go context no
      | none => setStatus 0
  | .loop whileFails condition body =>
    inLoop (runWhile (go { tested := true } condition) (go { tested := context.tested } body) whileFails roundLimit 0)
  | .each line name words body => do
    modify fun sh => { sh with line }
    let texts ← match words with
      | some words => expandWords (substitute go) words
      | none => do
        let sh ← get
        pure sh.arguments
    setStatus 0
    inLoop (runEach name (go { tested := context.tested } body) texts)
  | .select line word arms => do
    modify fun sh => { sh with line }
    let value ← expandText (substitute go) word
    match ← selectArm go value arms with
    | some body => go context body
    | none => setStatus 0
  | .subshell line body redirections => do
    modify fun sh => { sh with line }
    runSubshell go context body redirections
    checkFailure context
  | .define _ name body =>
    modify fun sh => { sh with functions := (name, body) :: sh.functions.filter (·.1 ≠ name), status := 0 }
  | .redirect line body redirections => do
    modify fun sh => { sh with line }
    runRedirected go context body redirections

/-- Runs a statement, and answers the signals that come. -/
def run : (fuel : Nat) → Go
  | 0, _, _ => fail "nested too deep".toList
  | fuel + 1, context, s => do
    if (← get).flags.contains 'n' then return
    answerSignals (run fuel)
    runStatement (run fuel) context s
    answerSignals (run fuel)

end DocViewer.Script
