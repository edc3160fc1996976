import CommandPipeline.Platform.Shell.Settings

/-! Commands in the background, and the builtin commands that need not wait for them: `jobs`, `fg`, `bg`
and `kill`. -/
namespace CommandPipeline.Platform.Shell

open Text (Octets)

/-! ### Endings -/

/-- What is said of a process that a signal has ended. -/
def signalTexts : List (Nat × String) :=
  [(1, "Hangup"), (2, "Interrupt"), (3, "Quit"), (4, "Illegal instruction"), (5, "Trace/breakpoint trap"),
   (6, "Aborted"), (7, "Bus error"), (8, "Floating point exception"), (9, "Killed"),
   (10, "User defined signal 1"), (11, "Segmentation fault"), (12, "User defined signal 2"),
   (13, "Broken pipe"), (14, "Alarm clock"), (15, "Terminated"), (16, "Stack fault"),
   (24, "CPU time limit exceeded"), (25, "File size limit exceeded"), (26, "Virtual timer expired"),
   (27, "Profiling timer expired"), (29, "I/O possible"), (30, "Power failure"), (31, "Bad system call")]

def signalText (n : Nat) : String :=
  (signalTexts.lookup n).getD
    (if n < 34 then "Unknown signal " ++ toString n else "Real-time signal " ++ toString (n - 34))

/-- The status that an ending is for the shell. -/
def statusOf : Command.Ending → Nat
  | .exited code => code
  | .signaled n => 128 + n

namespace Step

/-- Notes that a process has ended, and gives its status. -/
def noteEnding (e : Command.Ending) : Step Nat := do
  if let .signaled n := e then
    if n ≠ 2 ∧ n ≠ 13 then sayError (signalText n ++ "\n")
  receive 17
  receiveAll
  return statusOf e

/-! ### Jobs -/

/-- The number of the next job. The number of a job that has been waited for is given away. -/
def freeNumber : (fuel number : Nat) → Step Nat
  | 0, number => return number
  | fuel + 1, number => do
    match (← get).jobs.find? (·.number == number) with
    | none => return number
    | some job =>
      if job.awaited then
        modify fun s => { s with jobs := s.jobs.filter (·.number ≠ number) }
        return number
      else freeNumber fuel (number + 1)

def jobNumber : Step Nat := do freeNumber ((← get).jobs.length + 1) 1

/-- Puts a command into the background, with nothing to read. -/
def addJob (c : Command) : Step Unit := do
  let number ← jobNumber
  let s ← get
  let child := s.world.branch
  let (stream, child) := World.addStream { channel := .device .null, readable := true, writable := false } child
  let job : Job := {
    number, process := child.process, waiting := some (s.memory, child.connect 0 stream, c) }
  set { s with
    world := s.world.resume child
    jobs := job :: s.jobs
    memory := { s.memory with background := some child.process } }

/-- The job that a word names. -/
def namedJob (word : Octets) : Step Job := do
  let jobs := (← get).jobs
  let found (job? : Option Job) (text : String) : Step Job :=
    match job? with
    | some job => return job
    | none => fail text
  match word.toList with
  | ['%'] | ['%', '%'] | ['%', '+'] => found jobs.head? "No current job"
  | ['%', '-'] => found jobs[1]? "No previous job"
  | '%' :: cs =>
    let number := if cs.all Char.isDigit then (digits? 10 decimalValue? cs).map Prod.fst else none
    found (number.bind fun n => jobs.find? (·.number == n)) ("No such job: " ++ word)
  | _ =>
    let n ← number word
    found (jobs.find? (·.process == n)) ("No such job: " ++ word)

/-- A job as it is shown. -/
def showJob (mark : Char) (job : Job) (process : Bool) : Step Unit :=
  let front := "[" ++ toString job.number ++ "] " ++ String.ofList [mark] ++ " " ++
    (if process then toString job.process ++ " " else "") ++
    match job.ending with
    | none => "Running"
    | some (.exited 0) => "Done"
    | some (.exited code) => "Done(" ++ toString code ++ ")"
    | some (.signaled n) => signalText n
  say (front ++ String.ofList (List.replicate (max 1 (33 - front.length)) ' ') ++ "\n")

end Step

def runJobsBuiltin (words : List Octets) : Step Nat := do
  let (options, words) ← Step.readOptions "lp" words
  let mode := (options.getLast?.map Prod.fst).getD ' '
  let jobs := (← get).jobs
  let shown ← if words.isEmpty then pure jobs else words.mapM Step.namedJob
  shown.forM fun job => do
    let mark := if jobs.head?.any (·.number == job.number) then '+'
      else if jobs[1]?.any (·.number == job.number) then '-' else ' '
    if mode = 'p' then Step.say (toString job.process ++ "\n") else Step.showJob mark job (mode == 'l')
  modify fun s => { s with
    jobs := s.jobs.filter fun job => job.ending.isNone || !shown.any (·.number == job.number) }
  return 0

/-- Jobs cannot be brought to the front, or moved to the back. -/
def runResume (words : List Octets) : Step Nat := do
  let (_, words) ← Step.readOptions "" words
  let job := words.headD "%"
  discard (Step.namedJob job)
  Step.fail ("job " ++ (words.head?.getD "(null)") ++ " not created under job control")

/-! ### Sending signals -/

def killUsage : String :=
  "Usage: kill [-s sigspec | -signum | -sigspec] [pid | job]... or\nkill -l [exitstatus]"

/-- Sends a signal to the process that a word names, and tells whether it is there. -/
def sendSignal (n : Nat) (word : Octets) : Step Bool := do
  let w ← Step.world
  let jobs := (← get).jobs
  let missing : Step Bool := do
    Step.warn "No such process\n"
    return false
  if word.startsWith "%" then
    discard (Step.namedJob word)
    missing
  else if word.startsWith "-" then
    discard (Step.number (String.ofList (word.toList.drop 1)))
    missing
  else
    let process ← Step.number word
    if process = 0 then
      if n ≠ 0 then Step.receive n
      return true
    else if process = w.process then
      if n ≠ 0 then Step.receive n
      return true
    else if w.lineage.contains process ∨ jobs.any (fun j => j.process == process && !j.awaited) then
      if n ≠ 0 then Step.inWorld (modify fun w => { w with signals := w.signals ++ [(process, n)] })
      return true
    else missing

/-- The signal that the words of `kill` ask for, whether signals are to be listed, and the other words. -/
def killOptions (words : List Octets) : Step (Option Nat × Bool × List Octets) := do
  match words.head?.map String.toList, words.tail with
  | some ('-' :: cs), rest =>
    match signal? 1 (String.ofList cs) with
    | some n => return (some n, false, rest)
    | none =>
      let (options, rest) ← Step.readOptions "ls:" words
      let named ← (options.filter fun o => o.1 == 's').mapM fun o =>
        match signal? 1 o.2 with
        | some n => return n
        | none => Step.fail ("invalid signal number or name: " ++ o.2)
      return (named.getLast?, options.any fun o => o.1 == 'l', rest)
  | _, _ => return (none, false, words)

def runKill (words : List Octets) : Step Nat := do
  let (signal, listing, words') ← killOptions words
  let signal := if listing then signal else signal.or (some 15)
  if words.isEmpty ∨ ((signal.isNone ∨ words'.isEmpty) ≠ listing) then Step.fail killUsage
  else if listing then
    match words' with
    | [] =>
      Step.say ("0\n" ++ String.join (((List.range signalCount).drop 1).map fun n => signalTitle n ++ "\n"))
    | word :: _ =>
      let n ← Step.number word
      let n := if 128 < n then n - 128 else n
      if 0 < n ∧ n < signalCount then Step.say (signalTitle n ++ "\n")
      else Step.fail ("invalid signal number or exit status: " ++ word)
    return 0
  else
    let done ← words'.mapM (sendSignal (signal.getD 15))
    return if done.all id then 0 else 1

end CommandPipeline.Platform.Shell
