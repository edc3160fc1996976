import CommandPipeline.CommandLine.Host
import CommandPipeline.CommandLine.Invocation
import CommandPipeline.Json.Document
import CommandPipeline.Json.Report
import CommandPipeline.Run.Engine

/-! The program: from its words and its host to what it prints and leaves. A run starts only after its
pipeline is loaded, its arguments fit and its log file is open. -/
namespace CommandPipeline.CommandLine

open Display (Screen)

variable {σ : Type}

def versionNumber : String := "0.1.0"

/-! ### Loading -/

def Host.load (h : Host σ) (path : String) : Log.Logged (Except Language.ParseError Document) :=
  Language.parseFile h.tokens h.files h.here path

/-- The log file of a run, if it has one, and the files with it. -/
def Host.openLog (h : Host σ) (path : Option String) :
    Except Trouble (Option Platform.Path × Platform.Files) :=
  match path with
  | none => .ok (none, h.files)
  | some path =>
    match Platform.openLog h.files h.here path with
    | .error e => .error (.ofLog path e)
    | .ok (place, files) => .ok (some place, files)

/-! ### What a run prints -/

/-- A run is quiet if only its result is wanted. -/
def RunRequest.quiet (r : RunRequest) : Bool := r.outputOnly || r.json

def headerLines (screen : Screen) (d : Document) : List String :=
  [screen.symbol .info ++ " simplepipe v" ++ versionNumber,
   screen.symbol .info ++ " Pipeline " ++ screen.styled .bold d.name ++ " loaded"]

/-- The lines before a run. -/
def RunRequest.header (r : RunRequest) (screen : Screen) (d : Document) : List String :=
  if r.quiet then [] else headerLines screen d

/-- The lines during a run. -/
def RunRequest.progress (r : RunRequest) (screen : Screen) (signals : List Run.Signal) : List String :=
  Run.deliver (if r.quiet then [] else [Display.eventLine screen]) signals

/-- The result of a run as it was asked for. -/
def RunRequest.resultLine (r : RunRequest) (report : Run.Report) : String :=
  if r.json then Json.pretty 0 (Json.ofReport report)
  else if r.outputOnly then report.output
  else "Pipeline output: " ++ report.output

/-- The times of a run that were asked for. -/
def RunRequest.timeLines (r : RunRequest) (report : Run.Report) : List String :=
  (if r.time then [Display.totalTimeLine report] else []) ++
    (if r.timeCommands then Display.timingLines report else [])

/-- The lines about a run that failed. -/
def failureLines (screen : Screen) (d : Document) (report : Run.Report) : List String :=
  ["", screen.symbol .cross ++ " " ++ screen.styled .bold d.name ++ " " ++ screen.styled .red "failed"] ++
    match report.failedStep with
    | some (index, entry) => [Display.failedStepLine index entry]
    | none => []

/-! ### Requests -/

/-- Makes a record of a run, and adds it to the log file if there is one that takes it. -/
def logTo (log : Option Platform.Path) (verbose : Bool) (time : Nat → String) (record : Log.Record)
    (w : Scene σ) : Scene σ :=
  { w with
    files := match log with
      | some place => w.files.append place (Text.utf8 (Log.fileText verbose [⟨time w.logged, record⟩]))
      | none => w.files
    logged := w.logged + 1 }

/-- Runs a document whose arguments are bound and whose log file is open. The records of the run go to
the log file if there is one, and else to the screen, behind those that were made before. -/
def runBound (h : Host σ) (verbose : Bool) (r : RunRequest) (d : Document) (args : Arguments)
    (before : List Log.Record) (log : Option Platform.Path) (files : Platform.Files) (s : σ) : Result σ :=
  let note := logTo log verbose h.runTime
  let runner := { h.runner note with hear := note }
  let o := Run.run runner h.occasion d args { files, own := s }
  let before := before ++ match log with
    | some _ => [⟨.debug, Log.program, "Writing run log to " ++ r.logFile.getD ""⟩]
    | none => []
  let ofRun := match log with
    | some _ => []
    | none => Run.records o.signals
  let failed := match o.failure with
    | some failure => failureLines h.screen d o.report ++ h.recordLines verbose
        (Log.stamped h.time before.length [⟨.error, Log.program, failure.message⟩])
    | none => []
  { code := if o.failure.isSome then 1 else 0
    stdout := r.header h.screen d ++ r.progress h.screen o.signals ++ r.resultLine o.report ::
      r.timeLines o.report
    stderr := h.recordLines verbose (Log.stamped h.time 0 before ++ Log.stamped h.runTime 0 ofRun) ++ failed
    files := o.state.files
    state := o.state.own }

def runPipeline (h : Host σ) (verbose : Bool) (r : RunRequest) (s : σ) : Result σ :=
  let loaded := h.load r.file
  let records := h.recordLines verbose (Log.stamped h.time 0 loaded.records)
  match loaded.value with
  | .error e =>
    { code := 1, stderr := records ++ (Trouble.ofParse r.file e).report, files := h.files, state := s }
  | .ok d =>
    match d.bind r.arguments with
    | .error e =>
      { code := 1
        stdout := r.header h.screen d
        stderr := records ++ [h.screen.symbol .cross ++ " " ++ h.screen.styled .red e.message,
          Display.argumentLine d]
        files := h.files
        state := s }
    | .ok args =>
      match h.openLog r.logFile with
      | .error e =>
        { code := 1, stdout := r.header h.screen d, stderr := records ++ e.report, files := h.files, state := s }
      | .ok (log, files) => runBound h verbose r d args loaded.records log files s

def showArguments (h : Host σ) (verbose : Bool) (file : String) (s : σ) : Result σ :=
  let loaded := h.load file
  let records := h.recordLines verbose (Log.stamped h.time 0 loaded.records)
  match loaded.value with
  | .error e =>
    { code := 1, stderr := records ++ (Trouble.ofParse file e).report, files := h.files, state := s }
  | .ok d => { code := 0, stdout := [Display.argumentLine d], stderr := records, files := h.files, state := s }

/-- The lines about a document that is valid. With JSON wanted, the document follows. -/
def validLines (screen : Screen) (json : Bool) (d : Document) : List String :=
  (screen.symbol .check ++ " Pipeline file is valid!") :: Display.summaryLines screen d ++
    if json then ["", Json.pretty 0 (Json.ofDocument d)] else []

def validate (h : Host σ) (verbose : Bool) (file : String) (json : Bool) (s : σ) : Result σ :=
  let loaded := h.load file
  let stderr := h.recordLines verbose (Log.stamped h.time 0 loaded.records)
  match loaded.value with
  | .error e =>
    { code := 1
      stdout := [h.screen.symbol .cross ++ " Validation failed:",
        "  " ++ h.screen.styled .red (Trouble.ofParse file e).line]
      stderr
      files := h.files
      state := s }
  | .ok d => { code := 0, stdout := validLines h.screen json d, stderr, files := h.files, state := s }

def Invocation.perform (i : Invocation) (h : Host σ) (s : σ) : Result σ :=
  match i.request with
  | .run r => runPipeline h i.verbose r s
  | .arguments file => showArguments h i.verbose file s
  | .validate file json => validate h i.verbose file json s

/-! ### Refusals -/

def usageLines : List String :=
  ["Usage: simplepipe [-v] <COMMAND>", "",
   "Commands:",
   "  run       Run a pipeline: -f <FILE> [--time] [--time-cmd] [--output-only] [--log-file <FILE>] [--json] [ARGS]...",
   "  args      Show the arguments that a pipeline expects: -f <FILE>",
   "  validate  Validate a pipeline file: -f <FILE> [--json]",
   "  help      Print this text"]

def Refusal.message : Refusal → String
  | .help => "help is wanted"
  | .version => "the version is wanted"
  | .nothing => "nothing is asked for"
  | .missingCommand => "a command is missing"
  | .unknownCommand => "the command is not known"
  | .unknownArgument => "an argument is not expected"
  | .missingArgument => "a pipeline file is missing"
  | .missingValue => "an option lacks its value"
  | .unwantedValue => "an option takes no value"
  | .repeatedOption => "an option is given more than once"

/-- Help and the version are printed, all else is a mistake. -/
def Refusal.result (e : Refusal) (h : Host σ) (s : σ) : Result σ :=
  match e with
  | .help => { code := 0, stdout := usageLines, files := h.files, state := s }
  | .version => { code := 0, stdout := ["simplepipe " ++ versionNumber], files := h.files, state := s }
  | e => { code := 2, stderr := ("error: " ++ e.message) :: "" :: usageLines, files := h.files, state := s }

/-! ### The program -/

/-- What the program does with the words behind its name. -/
def execute (h : Host σ) (words : List String) (s : σ) : Result σ :=
  match Invocation.ofWords words with
  | .ok i => i.perform h s
  | .error e => e.result h s

theorem execute_run {words : List String} {verbose : Bool} {r : RunRequest}
    (hwords : Invocation.ofWords words = .ok ⟨verbose, .run r⟩) (h : Host σ) (s : σ) :
    execute h words s = runPipeline h verbose r s := by
  simp only [execute, hwords, Invocation.perform]

end CommandPipeline.CommandLine
