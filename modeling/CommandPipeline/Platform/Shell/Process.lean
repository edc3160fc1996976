import CommandPipeline.Platform.Shell.Jobs
import CommandPipeline.Platform.Shell.Leading

/-! What a shell does as a process: it reads scripts, answers signals, starts other processes and ends.
How commands are run is a parameter. -/
namespace CommandPipeline.Platform.Shell

open Text (Octets)

open Shell.Step

/-! ### Where commands stand -/

/-- What surrounds a command. -/
structure Standing where
  /-- Something is decided by the status. -/
  tested : Bool := false
  /-- The shell ends with the command. -/
  final : Bool := false

/-- How a turn of a loop ends. -/
inductive Turn where
  | on
  | next
  | leave
  /-- The function that the loop is in ends. -/
  | out
  deriving DecidableEq

/-- How the loop goes on after a command in it. -/
def turn : Step Turn := do
  let skip (s : Skip) : Step Unit := remember fun m => { m with skip := s }
  match (← memory).skip with
  | .none => return .on
  | .breaking n =>
    skip (if n ≤ 1 then .none else .breaking (n - 1))
    return .leave
  | .continuing n =>
    skip (if n ≤ 1 then .none else .continuing (n - 1))
    return if n ≤ 1 then .next else .leave
  | .returning _ => return .out

def skips : Step Bool := return (← memory).skip ≠ .none

/-- A function or a file that something has been skipped to the end of is over. -/
def endReturn : Step Unit := remember fun m =>
  { m with skip := match m.skip with
    | .returning _ => .none
    | skip => skip }

/-- A shell with actions for signals does not become another program. -/
def Memory.hasTraps (m : Memory) : Bool := m.traps.any fun t => t.2 != ""

/-- The memory of a part of the shell. -/
def Memory.forPart (m : Memory) : Memory :=
  { m with traps := m.traps.filter fun t => t.2 == "", pending := [], lineRead := m.outerLine }

/-- Runs commands, which leave their status. -/
abbrev Evaluator := Standing → Command → Step Nat

/-- How often anything is repeated at most. -/
def patience : Nat := 1000000000000

def setStatus (status : Nat) : Step Unit := remember fun m => { m with status }

def setLine (line : Nat) : Step Unit := remember fun m => { m with line }

/-! ### Programs -/

/-- Becomes another program. -/
def become {α : Type} (start : Start) (file self : Octets) (args : List Octets) : Step α := do
  let m ← memory
  let ignored := (m.traps.filter fun t => t.2 == "").map Prod.fst
  let ended ← inWorld fun w =>
    start file self args { w with environment := m.environment, ignored := ignored ++ w.ignored }
  match ended with
  | .ok e => throw (.over e)
  | .error e =>
    setStatus (if e = .noEntry ∨ e = .notDirectory ∨ e = .nameTooLong then 127 else 126)
    warn (self ++ ": " ++ fileErrorText "not found" e)
    throw .finish

/-! ### Scripts -/

/-- Where a script comes from. -/
inductive ScriptSource where
  | text
  | file
  /-- It is given to the shell line by line. A user is asked for lines by the texts of variables. -/
  | given (ask : (name : String) → Step Unit)

namespace ScriptSource

def isGiven : ScriptSource → Bool
  | .given _ => true
  | _ => false

/-- Asks a user for the first line of a command. -/
def askFirst : ScriptSource → Step Unit
  | .given ask => do if (← memory).has "interactive" then ask "PS1"
  | _ => return ()

/-- Shows what has been read, and asks a user for each line of it but the first. -/
def afterReading (source : ScriptSource) (text : List Char) (complete : Bool) : Step Unit := do
  let m ← memory
  let shown : Step Unit := if m.has "verbose" then sayError (String.ofList text) else pure ()
  match source with
  | .text => return ()
  | .file => shown
  | .given ask =>
    shown
    if m.has "interactive" then
      let ends := text.countP (· == '\n')
      let asked := if complete ∧ text.getLast? = some '\n' then ends - 1 else ends
      (List.range asked).forM fun _ => ask "PS2"

/-- How often the end of a script is not believed. -/
def doubts : Nat := 50

/-- What is said at the end of a script. -/
def atEnd : ScriptSource → Step Unit
  | .given ask => do
    if (← memory).has "ignoreeof" then
      (List.range doubts).forM fun _ => do
        sayError "\nUse \"exit\" to leave shell.\n"
        (given ask).askFirst
    else if (← memory).has "interactive" then sayError "\n"
  | _ => return ()

end ScriptSource

/-- Runs the lines of a script. -/
def evaluateLines (run : Evaluator) (st : Standing) (source : ScriptSource) : (fuel : Nat) → ReaderState →
    (status : Nat) → Step Nat
  | 0, _, status => return status
  | fuel + 1, r, status => do
    let m ← memory
    let before := r.input
    source.askFirst
    let (reading, r) := readLine { r with aliases := m.aliases, documents := m.documents }
    remember fun m => { m with
      documents := r.documents, lineRead := r.line
      outerLine := if source.isGiven then r.line else m.outerLine }
    let text := before.take (before.length - r.input.length)
    match reading with
    | .finish =>
      source.afterReading text true
      source.atEnd
      return status
    | .fault complaint =>
      source.afterReading text !r.input.isEmpty
      setLine r.line
      fail complaint
    | .command c =>
      source.afterReading text true
      let last := r.again && r.last == .finish
      let found ← run { st with final := st.final && last } c
      let status := match c with
        | .nothing => status
        | _ => found
      if ← skips then return status else evaluateLines run st source fuel r status

/-- Runs a script inside another one. -/
def evaluateInner (run : Evaluator) (st : Standing) (source : ScriptSource) (text : Octets) : Step Nat := do
  let line := (← memory).lineRead
  let leave : Step Unit := remember fun m => { m with lineRead := line }
  try
    let status ← evaluateLines run st source patience { input := text.toList } 0
    leave
    return status
  catch e =>
    leave
    throw e

/-- Runs a text as a script. -/
def evaluateText (run : Evaluator) (st : Standing) (text : Octets) : Step Nat :=
  evaluateInner run st .text text

/-- The file of a script that is read into the shell. -/
def scriptFile (name : Octets) : Step Octets := do
  if name.toList.contains '/' then return name
  else
    let w ← world
    let files := (searchPath (← memory).path).map fun d => inDirectory d name
    match files.find? fun f => if let .ok (.file _ _) := w.files.find w.here f then true else false with
    | some file => return file
    | none => fail (name ++ ": not found")

/-- The text behind a stream. -/
def streamText (stream : Nat) : Act Octets := do
  modify (World.connect 10 stream)
  let text ← World.readAll 10
  modify (World.disconnect 10)
  return (text.toOption.getD "")

/-- The text of a script in a file. -/
def scriptText (file : Octets) : Step Octets := do
  let stream ← openFor .read file
  inWorld (streamText stream)

/-- Runs a file in the shell itself. -/
def evaluateFile (run : Evaluator) (name : Octets) : Step Nat := do
  let file ← scriptFile name
  let text ← scriptText file
  remember fun m => { m with command := some file }
  let status ← evaluateInner run {} .file text
  endReturn
  return status

/-! ### Signals -/

/-- Performs the actions for the signals that have come. -/
def answerSignals (run : Evaluator) : (fuel : Nat) → Step Unit
  | 0 => return ()
  | fuel + 1 => do
    let m ← memory
    if m.pending.isEmpty ∨ m.skip ≠ .none then return ()
    let n := m.pending.foldl min 64
    remember fun m => { m with
      pending := m.pending.filter (· ≠ n), interrupted := some (m.interrupted.getD m.status) }
    match m.traps.lookup n with
    | none => pure ()
    | some action =>
      let _ ← evaluateText run {} action
      if (← memory).skip ≠ .returning true then setStatus (m.interrupted.getD m.status)
    remember fun later => { later with interrupted := m.interrupted }
    answerSignals run fuel

/-! ### The end of a process -/

/-- Performs the action for the end of the shell. -/
def endAction (run : Evaluator) : StateM Session Command.Ending := do
  let m := (← get).memory
  let ended : StateM Session Command.Ending := do return .exited ((← get).memory.status % 256)
  match m.traps.lookup 0 with
  | none => ended
  | some action =>
    modify fun s => { s with memory := { s.memory with
      traps := s.memory.traps.filter (·.1 ≠ 0), skip := .none, interrupted := some m.status } }
    match ← (evaluateText run {} action).run with
    | .error (.over e) => return e
    | .error _ => ended
    | .ok _ => return .exited (m.status % 256)

mutual

/-- Runs steps and what is left to do at the end of a shell. -/
def toEnd (run : Evaluator) : (fuel : Nat) → Step Unit → StateM Session Command.Ending
  | 0, _ => return .signaled 11
  | fuel + 1, steps => do
    let ending ← match ← steps.run with
      | .error (.over e) => pure e
      | _ => endAction run
    runJobs run fuel
    return ending

/-- Runs the jobs that have not run yet. -/
def runJobs (run : Evaluator) : (fuel : Nat) → StateM Session Unit
  | 0 => return ()
  | fuel + 1 => do
    let s ← get
    match s.jobs.reverse.findSome? fun job => job.waiting.map fun start => (job, start) with
    | none => return ()
    | some (job, m, w, c) =>
      let steps : Step Unit := do
        receiveAll
        let _ ← run { final := true } c
      let child : Session := { memory := m.forPart, world := w.resume s.world }
      let (ending, child) := (toEnd run fuel steps).run child
      let job := { job with waiting := none, ending := some ending }
      set { s with
        world := s.world.resume child.world
        jobs := s.jobs.map fun (j : Job) => if j.number = job.number then job else j }
      runJobs run fuel

end

/-! ### Other processes -/

/-- Runs the jobs that have been put into the background before. -/
def catchUp (run : Evaluator) : Step Unit := runJobs run patience

/-- Runs steps as a process of their own. -/
def fork (run : Evaluator) (change : World → World) (steps : Step Unit) : Step Command.Ending := do
  catchUp run
  let _ ← jobNumber
  let s ← get
  let child : Session := { memory := s.memory.forPart, world := change s.world.branch }
  let (ending, child) := (toEnd run patience steps).run child
  set { s with world := s.world.resume child.world }
  return ending

/-- What a command writes. -/
def output (run : Evaluator) (c : Command) : Step Octets := do
  match c with
  | .nothing => return ""
  | c =>
    let pipe ← inWorld World.addPipe
    let stream ← inWorld (World.addStream { channel := .pipe pipe, readable := false, writable := true })
    let ending ← fork run (World.connect 1 stream) (discard (run { final := true } c))
    let text ← inWorld (World.drain pipe)
    let substituted ← noteEnding ending
    remember fun m => { m with substituted }
    return text

/-- Runs commands of which each one reads what the one before it writes. -/
def evaluatePipeline (run : Evaluator) (st : Standing) : (before : Option Nat) → List Command → Step Nat
  | _, [] => return 0
  | before, c :: rest => do
    let pipe ← inWorld World.addPipe
    let stream (readable writable : Bool) : Step Nat :=
      inWorld (World.addStream { channel := .pipe pipe, readable, writable })
    let input ← stream true false
    let out ← stream false true
    let change (w : World) : World :=
      let w := before.elim w fun n => w.connect 0 n
      if rest.isEmpty then w else w.connect 1 out
    let status ← noteEnding (← fork run change (discard (run { st with final := true } c)))
    if rest.isEmpty then return status else evaluatePipeline run st (some input) rest

/-- Waits for jobs, and gives the status of the last one that is asked for. -/
def runWait (run : Evaluator) (words : List Octets) : Step Nat := do
  let (_, words) ← readOptions "" words
  let mark (holds : Job → Bool) : Step Unit := modify fun s => { s with
    jobs := s.jobs.map fun job => if holds job then { job with awaited := true } else job }
  if words.isEmpty then
    catchUp run
    mark fun _ => true
    return 0
  else words.foldlM (fun _ word => do
    let job? ← if word.startsWith "%" then some <$> namedJob word
      else
        let process ← number word
        pure ((← get).jobs.find? (·.process == process))
    match job? with
    | none => return 127
    | some job =>
      catchUp run
      mark (·.number == job.number)
      match ((← get).jobs.find? (·.number == job.number)).bind Job.ending with
      | none => return 127
      | some e => if job.awaited then return statusOf e else noteEnding e) 127

end CommandPipeline.Platform.Shell
