import CommandPipeline.Platform.Shell.Run

/-! The program `sh`: it runs a script from its arguments, from a file or from its input. -/
namespace CommandPipeline.Platform.Shell

open Text (Octets)

open Shell.Step

/-! ### The start -/

/-- The working directory as the environment names it, or as it is if the name is wrong. -/
def startDirectory (w : World) : Octets :=
  match w.valueOf? "PWD" with
  | some path => if path.startsWith "/" ∧ directoryAt? w path = some w.here then path else World.pathText w.here
  | none => World.pathText w.here

/-- The variables that a shell starts with. -/
def startVariables (w : World) : List (Octets × Variable) :=
  let own : List (Octets × Octets) :=
    [("IFS", " \t\n"), ("PATH", usualPath), ("PS1", "# "), ("PS2", "> "), ("PS4", "+ "), ("OPTIND", "1")]
  let start := own.map fun e => (e.1, ({ value := some e.2 } : Variable))
  let imported := (w.environment.filter fun e => isName e.1).foldl
    (fun vs e => putVariable e.1 { value := some e.2, exported := true } vs) start
  let keep (name value : Octets) (vs : List (Octets × Variable)) : List (Octets × Variable) :=
    putVariable name { (vs.lookup name).getD {} with value := some value } vs
  let fixed := keep "PPID" (toString (w.lineage[1]?.getD 0)) (keep "OPTIND" "1" (keep "IFS" " \t\n" imported))
  putVariable "PWD" { value := some (startDirectory w), exported := true } fixed

def startMemory (self : Octets) (w : World) : Memory :=
  { name := self, vars := startVariables w, root := w.process, directory := startDirectory w, line := 0 }

/-- Reads the options. The two about a user depend on each other. -/
def startOptions (args : List Octets) : Step OptionWords := do
  remember fun m => { m with options := optionTable.map Prod.fst }
  let o ← optionWords true (args.length + 1) { rest := args }
  remember fun m => { m with options := m.options.filter fun name => !o.unstated.contains name }
  let _ ← flush
  if o.script ∧ o.rest.isEmpty then fail "-c requires an argument"
  if o.unstated.contains "monitor" ∧ (← memory).has "interactive" then setOption true "monitor"
  if o.rest.isEmpty then setOption true "stdin"
  return o

/-! ### The scripts -/

/-- Runs a file that a user keeps for the start of a shell, if it is there. -/
def evaluateProfile (run : Evaluator) (name : Octets) : Step Unit := do
  let file ← replacedText (output run) name
  match ← inWorld (World.openFile .read file) with
  | .error _ => return ()
  | .ok stream =>
    let text ← inWorld (streamText stream)
    let _ ← evaluateInner run {} .file text
    endReturn

/-- Runs what is given to the shell. -/
def evaluateGiven (run : Evaluator) (text : Octets) : Step Unit :=
  discard (evaluateLines run {} (.given (prompt (output run))) patience { input := text.toList } 0)

/-- A mistake does not end a shell that a user types at. Tells whether there has been one. -/
def survives (steps : Step Unit) : Step Bool := do
  try
    steps
    return false
  catch e =>
    if e = .mistake ∧ (← memory).has "interactive" then
      closeFrames 0
      remember fun m => { m with skip := .none, loops := 0, depth := 0, command := none }
      return true
    else throw e

/-- Runs the script that a shell is started for, and then what it is given. What was left to read when a
mistake was made is lost. -/
def runScripts (run : Evaluator) (args : List Octets) : Step Unit := do
  let o ← startOptions args
  let standard := (← memory).has "stdin"
  let text ← match o.script, o.rest with
    | true, text :: rest =>
      remember fun m => { m with name := rest.headD m.name, parameters := rest.tail }
      pure text
    | _, file :: parameters =>
      if standard then
        setParameters o.rest
        pure ""
      else
        let text ← scriptText file
        remember fun m => { m with name := file, parameters }
        pure text
    | _, [] => pure ""
  checkTerminal
  if o.login then
    let _ ← survives (evaluateProfile run "/etc/profile")
    let _ ← survives (evaluateProfile run "$HOME/.profile")
  if (← memory).has "interactive" then
    let profile := ((← memory).valueOf? "ENV").getD ""
    if profile ≠ "" then discard (survives (evaluateProfile run profile))
  let failed ← survives do
    if o.script then discard (evaluateText run {} text)
  if !o.script ∨ standard ∨ failed then
    let text ← if o.script ∨ standard then (fun t => (t.toOption).getD "") <$> inWorld (World.readAll 0)
      else pure text
    let failed ← survives (evaluateGiven run text)
    if failed then discard (survives (evaluateGiven run ""))

/-- How many commands may stand inside one another. -/
def commandDepth : Nat := 1000000

def program (start : Start) : Program := fun self args w =>
  let run := evaluate start commandDepth
  let session : Session := { memory := startMemory self w, world := w }
  let (ending, s) := (toEnd run patience (runScripts run args)).run session
  (ending, s.world)

end CommandPipeline.Platform.Shell
