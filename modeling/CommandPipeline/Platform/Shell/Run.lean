import CommandPipeline.Platform.Shell.Condition
import CommandPipeline.Platform.Shell.Directory
import CommandPipeline.Platform.Shell.Input
import CommandPipeline.Platform.Shell.Naming
import CommandPipeline.Platform.Shell.Printing
import CommandPipeline.Platform.Shell.Process

/-! Running commands. Each command leaves a status, from which the commands around it decide what is
run next. A part of the shell that is a process of its own runs to its end before the rest goes on. -/
namespace CommandPipeline.Platform.Shell

open Text (Octets)

open Shell.Step

/-! ### Builtin commands -/

/-- The builtin commands that run no other commands. -/
def quietBuiltins : List (Octets × (List Octets → Step Nat)) :=
  [(":", fun _ => return 0), ("true", fun _ => return 0), ("false", fun _ => return 1),
   ("echo", runEcho), ("printf", runPrintf), ("test", runTest "test"), ("[", runTest "["),
   ("cd", runCd), ("chdir", runCd), ("pwd", runPwd), ("umask", runUmask), ("ulimit", runUlimit),
   ("alias", runAlias), ("unalias", runUnalias), ("export", runExport), ("readonly", runReadonly),
   ("local", runLocal), ("unset", runUnset), ("hash", runHash), ("type", runType),
   ("command", runCommand), ("read", runRead), ("getopts", runGetopts), ("shift", runShift),
   ("trap", runTrap), ("exit", runExit), ("return", runReturn), ("break", runBreak .breaking),
   ("continue", runBreak .continuing), ("jobs", runJobsBuiltin), ("fg", runResume), ("bg", runResume),
   ("kill", runKill),
   ("times", fun _ => do
      say "0m0.000000s 0m0.000000s\n0m0.000000s 0m0.000000s\n"
      return 0)]

def runSet (words : List Octets) : Step Nat := do
  if words.isEmpty then
    let m ← memory
    say (variableLines "" (m.vars.filter fun e => e.2.value.isSome))
  else
    let o ← optionWords false (words.length + 1) { rest := words }
    checkTerminal
    if o.clears ∨ !o.rest.isEmpty then setParameters o.rest
  return 0

/-- Becomes the program of a name. -/
def runExec (start : Start) (run : Evaluator) (self : Octets) (args : List Octets) : Step Nat := do
  catchUp run
  if self.toList.contains '/' then become start self self args
  else match searchIn (← world) self .noEntry (searchPath (← memory).path) with
    | .ok file => become start file self args
    | .error e =>
      setStatus (if e = .noEntry then 127 else 126)
      warnUnknown self e
      throw .finish

/-- Runs a builtin command. -/
def evaluateBuiltin (start : Start) (run : Evaluator) (st : Standing) (name : Octets)
    (words : List Octets) : Step Unit := do
  let before := (← memory).command
  let named (command : Option Octets) : Step Unit := remember fun m => { m with command }
  try
    named (some name)
    let status ← match name, words with
      | "eval", [] | "exec", [] => pure 0
      | "eval", words => evaluateText run { tested := st.tested } (" ".intercalate words)
      | ".", words => do
        match (← readOptions "" words).2 with
        | [] => pure 0
        | file :: _ => evaluateFile run file
      | "exec", self :: args => runExec start run self args
      | "wait", words => runWait run words
      | "set", words => runSet words
      | name, words => ((quietBuiltins.lookup name).getD fun _ => return 0) words
    setStatus status
    named (some name)
    if (← flush).isSome then
      warn (name ++ ": I/O error")
      setStatus (status ||| 1)
    named before
  catch e =>
    named before
    throw e

/-! ### Functions -/

/-- How many functions may run inside one another. -/
def functionDepth : Nat := 1000

/-- Calls a function. -/
def call (run : Evaluator) (st : Standing) (f : Function) (parameters : List Octets) : Step Unit := do
  let m ← memory
  if functionDepth ≤ m.depth then
    fail ("Maximum function recursion depth (" ++ toString functionDepth ++ ") reached")
  remember fun m => { m with parameters, optionPlace := (1, none), loops := 0, depth := m.depth + 1 }
  let leave : Step Unit := remember fun later => { later with
    parameters := m.parameters, optionPlace := m.optionPlace, loops := m.loops, depth := m.depth }
  try
    let _ ← run { tested := st.tested } f.body
    leave
    endReturn
  catch e =>
    leave
    throw e

/-! ### Simple commands -/

/-- Runs a command by its name. -/
def evaluateNamed (start : Start) (run : Evaluator) (st : Standing) (l : Leading) (name : Octets)
    (args : List Octets) : Step Unit := do
  match ← meaning name l.path l.functions with
  | .unknown e =>
    warnUnknown name e
    setStatus 127
  | .file file =>
    if st.final ∧ !(← memory).hasTraps then
      catchUp run
      become start file name args
    else setStatus (← noteEnding (← fork run id (become start file name args)))
  | .function f => call run st f args
  | .builtin =>
    let frames := (← memory).aside.length
    try evaluateBuiltin start run st name args
    catch
      | .mistake =>
        if l.special = some true then throw .mistake
        closeFrames frames
      | e => throw e

/-- Makes an assignment in front of a command, and gives it as it is shown. -/
def assign (substitute : Command → Step Octets) (l : Leading) (exports : Bool) (w : Word) : Step Octets := do
  match assignment? w with
  | none => return ""
  | some (name, value) =>
    let text ← wordText substitute true value
    if l.apart then makeLocal name (some text) true else setVariable name (some text) exports
    return name ++ "=" ++ text

/-- Runs a command of words, assignments and redirections. -/
def evaluateSimple (start : Start) (run : Evaluator) (st : Standing) (line : Nat)
    (assignments words : List Word) (redirections : List Redirection) : Step Nat := do
  let substitute := output run
  remember fun m => { m with line, substituted := 0 }
  let l ← leading substitute words
  let frames := (← memory).aside.length
  if l.apart then openFrame
  let aims ← redirections.mapM (Redirection.aim substitute)
  let before ← world
  let release : Step Unit := inWorld (modify (putBack (held before aims)))
  try
    if ← redirect substitute aims then
      let command := l.fields.drop l.place
      let shown ← assignments.mapM (assign substitute l (l.executes && 1 < command.length))
      trace substitute (before.descriptors.lookup 2) (shown ++ l.fields)
      match command with
      | [] => setStatus (← memory).substituted
      | name :: args => evaluateNamed start run st l name args
      if !l.executes then release
    else
      setStatus 2
      if l.special = some true then throw .mistake
      release
    closeFrames frames
    return (← memory).status
  catch e =>
    release
    throw e

/-! ### Loops and choices -/

/-- Repeats a loop. -/
def repeatLoop (run : Evaluator) (wanted : Bool) (st : Standing) (test body : Command) : (fuel : Nat) →
    (status : Nat) → Step Nat
  | 0, status => return status
  | fuel + 1, status => do
    let answer ← run { tested := true } test
    match ← turn with
    | .out => return answer
    | .leave => return status
    | .next => repeatLoop run wanted st test body fuel status
    | .on =>
      if (answer == 0) != wanted then return status
      else
        let status ← run st body
        match ← turn with
        | .on | .next => repeatLoop run wanted st test body fuel status
        | _ => return status

/-- Runs a command for each value of a variable. -/
def goThrough (run : Evaluator) (st : Standing) (name : Octets) (body : Command) : (status : Nat) →
    List Octets → Step Nat
  | status, [] => return status
  | _, value :: rest => do
    setVariable name (some value)
    let status ← run st body
    match ← turn with
    | .on | .next => goThrough run st name body status rest
    | _ => return status

/-- Whether a text matches one of some patterns. -/
def matchesSome (substitute : Command → Step Octets) (text : List Char) : List Word → Step Bool
  | [] => return false
  | w :: rest => do
    if Glob.fits ['!'] (← wordPattern substitute w) text then return true
    else matchesSome substitute text rest

/-- Runs the first clause that matches a text. -/
def choose (run : Evaluator) (st : Standing) (text : List Char) : List Clause → Step Nat
  | [] => return 0
  | .mk patterns body :: rest => do
    if ← matchesSome (output run) text patterns then
      match body with
      | .nothing => return 0
      | body => run st body
    else choose run st text rest

/-! ### Commands -/

/-- Runs a command within redirections. One that fails counts as a bad status of its own. -/
def within (run : Evaluator) (st : Standing) (c : Command) (redirections : List Redirection) : Step Nat := do
  let substitute := output run
  let aims ← redirections.mapM (Redirection.aim substitute)
  let before ← world
  let release : Step Unit := inWorld (modify (putBack (held before aims)))
  let status? ←
    try
      if ← redirect substitute aims then some <$> run { tested := st.tested } c else pure none
    catch e =>
      release
      throw e
  release
  match status? with
  | some status => return status
  | none =>
    setStatus 2
    if !st.tested && (← memory).has "errexit" then throw .finish
    return 2

/-- Runs a command as a process of its own. -/
def apart (run : Evaluator) (st : Standing) (c : Command) (redirections : List Redirection) : Step Nat := do
  let substitute := output run
  let aims ← redirections.mapM (Redirection.aim substitute)
  let inside : Step Unit := do
    aims.forM (Aim.connect substitute)
    let _ ← run { st with final := true } c
  if st.final ∧ !(← memory).hasTraps then
    remember Memory.forPart
    inside
    throw .finish
  else noteEnding (← fork run id inside)

/-- Looks for the program of a command, so that it need not be looked for in a process of its own. -/
def recognize : Command → Step Unit
  | .simple _ _ (w :: _) _ =>
    match plainText? w with
    | some name => if isName name then discard (meaning name) else pure ()
    | none => pure ()
  | _ => return ()

/-- What a command does. Its status is none if the last command inside it has left one. -/
def perform (start : Start) (run : Evaluator) (st : Standing) (c : Command) : Step (Option Nat) := do
  let tested : Standing := { tested := st.tested }
  let inLoop (steps : Step Nat) : Step (Option Nat) := do
    remember fun m => { m with loops := m.loops + 1 }
    let status ← steps
    remember fun m => { m with loops := m.loops - 1 }
    return some status
  match c with
  | .nothing => return none
  | .simple line assignments words redirections =>
    return some (← evaluateSimple start run st line assignments words redirections)
  | .redirected line c redirections =>
    setLine line
    return some (← within run st c redirections)
  | .subshell line c redirections =>
    setLine line
    return some (← apart run st c redirections)
  | .background line c redirections =>
    setLine line
    let redirections ← redirections.mapM (Redirection.settle (output run))
    addJob (if redirections.isEmpty then c else .subshell line c redirections)
    return some 0
  | .pipeline commands true =>
    commands.forM recognize
    addJob (.pipeline commands false)
    return some 0
  | .pipeline commands false =>
    commands.forM recognize
    return some (← evaluatePipeline run st none commands)
  | .negation c =>
    let status ← run { tested := true } c
    return some (if ← skips then status else if status = 0 then 1 else 0)
  | .both a b =>
    let status ← run { tested := true } a
    if status = 0 ∧ !(← skips) then return some (← run st b) else return none
  | .either a b =>
    let status ← run { tested := true } a
    if status ≠ 0 ∧ !(← skips) then return some (← run st b) else return none
  | .sequence a b =>
    let _ ← run tested a
    if ← skips then return none else return some (← run st b)
  | .conditional test yes no =>
    let status ← run { tested := true } test
    if ← skips then return none
    else if status = 0 then return some (← run st yes)
    else match no with
      | .nothing => return some 0
      | no => return some (← run st no)
  | .loop wanted test body => inLoop (repeatLoop run wanted tested test body patience 0)
  | .forEach line name words body =>
    setLine line
    let values ← words.mapM (wordFields (output run))
    inLoop (goThrough run tested name body 0 values.flatten)
  | .choice line word clauses =>
    setLine line
    let text ← wordText (output run) false word
    return some (← choose run st text.toList clauses)
  | .function line name body =>
    remember fun m => { m with
      functions := (name, ⟨line, body⟩) :: m.functions.filter fun e => e.1 ≠ name }
    return some 0

/-- Whether a bad status of a command may end the shell. -/
def Command.isChecked : Command → Bool
  | .simple .. | .subshell .. | .background .. | .pipeline .. => true
  | _ => false

/-- Runs a command that commands may stand in up to a depth. -/
def evaluate (start : Start) : (depth : Nat) → Evaluator
  | 0, _, _ => throw (.over (.signaled 11))
  | depth + 1, st, c => do
    let run : Evaluator := fun st c => evaluate start depth st c
    let status? ← if (← memory).has "noexec" then pure none
      else
        answerSignals run patience
        perform start run st c
    if let some status := status? then setStatus status
    answerSignals run patience
    let bad := status?.getD 0 ≠ 0
    if st.final ∨ (bad ∧ c.isChecked ∧ !st.tested ∧ (← memory).has "errexit") then throw .finish
    return (← memory).status

end CommandPipeline.Platform.Shell
