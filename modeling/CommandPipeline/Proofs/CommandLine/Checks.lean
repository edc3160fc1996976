import CommandPipeline.CommandLine.Program
import CommandPipeline.Proofs.Language.Outline
import Mathlib

/-! The checks before a run. A run is made only if its pipeline is loaded, its arguments fit and its log file
can be opened. If one of the checks fails, no command is started, no file changes, and nothing but the header
is printed to the output. -/
namespace CommandPipeline.CommandLine

variable {σ : Type}

/-! ### Failed checks and passed ones -/

theorem Host.value_load {h : Host σ} {path source : String} {d : Document}
    (hread : Platform.readText h.files h.here path = .ok source)
    (hparse : Language.parse h.tokens source = .ok d) : (h.load path).value = .ok d := by
  simp only [Host.load, Language.parseFile, hread]
  exact hparse

/-- `Stopped h r d?`: a check before the run fails, and `d?` is the document of the run if it was loaded. -/
inductive Stopped (h : Host σ) (r : RunRequest) : Option Document → Prop where
  | unloaded {e : Language.ParseError} : (h.load r.file).value = .error e → Stopped h r none
  | unbound {d : Document} : (h.load r.file).value = .ok d → r.arguments.length ≠ d.inputs.length →
      Stopped h r (some d)
  | unlogged {d : Document} {path : String} {e : Platform.FileError} : (h.load r.file).value = .ok d →
      r.logFile = some path → Platform.openLog h.files h.here path = .error e → Stopped h r (some d)

/-- All checks before the run pass. -/
structure Passed (h : Host σ) (r : RunRequest) (d : Document) (args : Arguments)
    (log : Option Platform.Path) (files : Platform.Files) : Prop where
  loads : (h.load r.file).value = .ok d
  binds : d.bind r.arguments = .ok args
  opens : h.openLog r.logFile = .ok (log, files)

theorem bind_eq_error {d : Document} {args : List String} (h : args.length ≠ d.inputs.length) :
    d.bind args = .error ⟨d.inputs.length, args.length⟩ :=
  if_neg h

theorem length_of_bind {d : Document} {args : List String} {e : CountError} (h : d.bind args = .error e) :
    args.length ≠ d.inputs.length := by
  intro hlength
  rw [Document.bind, if_pos hlength] at h
  contradiction

theorem openLog_eq_error {h : Host σ} {path : String} {e : Platform.FileError}
    (he : Platform.openLog h.files h.here path = .error e) :
    h.openLog (some path) = .error (.ofLog path e) := by
  simp only [Host.openLog, he]

/-- A log that cannot be opened has a path. -/
theorem exists_of_openLog {h : Host σ} {logFile : Option String} {trouble : Trouble}
    (htrouble : h.openLog logFile = .error trouble) :
    ∃ path e, logFile = some path ∧ Platform.openLog h.files h.here path = .error e := by
  cases logFile with
  | none => contradiction
  | some path =>
    cases he : Platform.openLog h.files h.here path with
    | error e => exact ⟨path, e, rfl, he⟩
    | ok opened => simp [Host.openLog, he] at htrouble

/-- A check fails, or all pass. -/
theorem stopped_or_passed (h : Host σ) (r : RunRequest) :
    (∃ d?, Stopped h r d?) ∨ ∃ d args log files, Passed h r d args log files := by
  cases hload : (h.load r.file).value with
  | error e => exact .inl ⟨none, .unloaded hload⟩
  | ok d =>
    cases hbind : d.bind r.arguments with
    | error e => exact .inl ⟨some d, .unbound hload (length_of_bind hbind)⟩
    | ok args =>
      cases hopen : h.openLog r.logFile with
      | error trouble =>
        obtain ⟨path, e, hpath, he⟩ := exists_of_openLog hopen
        exact .inl ⟨some d, .unlogged hload hpath he⟩
      | ok opened => exact .inr ⟨d, args, opened.1, opened.2, hload, hbind, hopen⟩

/-! ### What is left of a run -/

/-- The header tells the version of the program and the name of the document. -/
theorem headerLines_eq (screen : Display.Screen) (d : Document) :
    headerLines screen d =
      [screen.symbol .info ++ " simplepipe v0.1.0",
        screen.symbol .info ++ " Pipeline " ++ screen.styled .bold d.name ++ " loaded"] := by
  rw [headerLines, String.append_assoc]
  rfl

/-- The output of a run that is stopped before it starts. -/
def stoppedLines (screen : Display.Screen) (r : RunRequest) : Option Document → List String
  | none => []
  | some d => r.header screen d

/-- What a check that fails leaves: a message to the error output, and all else as it was. Neither what
runs the commands nor when it does counts. -/
theorem runPipeline_of_stopped {h : Host σ} {r : RunRequest} {d? : Option Document} (verbose : Bool)
    (s : σ) (hstopped : Stopped h r d?)
    (runner : (Log.Record → Scene σ → Scene σ) → Command.Runner (Scene σ))
    (occasion : Run.Occasion) :
    runPipeline { h with runner, occasion } verbose r s =
      { code := 1
        stdout := stoppedLines h.screen r d?
        stderr := (runPipeline h verbose r s).stderr
        files := h.files
        state := s } := by
  have hloads : ({ h with runner, occasion } : Host σ).load r.file = h.load r.file := rfl
  have hopens : ({ h with runner, occasion } : Host σ).openLog r.logFile = h.openLog r.logFile := rfl
  cases hstopped with
  | unloaded he =>
    simp only [runPipeline, hloads, he]
    rfl
  | unbound hd hlength =>
    simp only [runPipeline, hloads, hd, bind_eq_error hlength]
    rfl
  | @unlogged d path e hd hpath he =>
    have herror : h.openLog r.logFile = .error (.ofLog path e) := hpath ▸ openLog_eq_error he
    simp only [runPipeline, hloads, hopens, hd, herror]
    cases d.bind r.arguments <;> rfl

theorem runPipeline_of_passed {h : Host σ} {r : RunRequest} {d : Document} {args : Arguments}
    {log : Option Platform.Path} {files : Platform.Files} (verbose : Bool) (s : σ)
    (hpassed : Passed h r d args log files) :
    runPipeline h verbose r s = runBound h verbose r d args (h.load r.file).records log files s := by
  simp only [runPipeline, hpassed.loads, hpassed.binds, hpassed.opens]

/-! ### The program -/

/-- A run of the program that is stopped has started no command and changed no file. -/
theorem execute_of_stopped {h : Host σ} {words : List String} {verbose : Bool} {r : RunRequest}
    {d? : Option Document} (hwords : Invocation.ofWords words = .ok ⟨verbose, .run r⟩) (hstopped : Stopped h r d?)
    (s : σ) :
    let result := execute h words s
    result.code = 1 ∧ result.state = s ∧ result.files = h.files ∧ result.stdout = stoppedLines h.screen r d? ∧
      ∀ runner occasion, execute { h with runner, occasion } words s = result := by
  intro result
  have hstop := runPipeline_of_stopped verbose s hstopped
  have hresult := (execute_run hwords h s).trans (hstop h.runner h.occasion)
  refine ⟨congrArg Result.code hresult, congrArg Result.state hresult, congrArg Result.files hresult,
    congrArg Result.stdout hresult, fun runner occasion => ?_⟩
  exact ((execute_run hwords _ s).trans (hstop runner occasion)).trans hresult.symm

/-- A run of the program is stopped by a check that fails: no command is started, no file changes, so that
the log file is neither created nor changed, and the output is empty unless the pipeline was loaded and the
run is not quiet. Then it has the two lines of the header and no other. If no check fails, the run is made. -/
theorem nothing_runs_unchecked (h : Host σ) (words : List String) (s : σ) {verbose : Bool} {r : RunRequest}
    (hwords : Invocation.ofWords words = .ok ⟨verbose, .run r⟩) :
    let result := execute h words s
    (∀ d?, Stopped h r d? →
      result.code = 1 ∧ result.state = s ∧ result.files = h.files ∧
      (d? = none ∨ r.json = true ∨ r.outputOnly = true → result.stdout = []) ∧
      (∀ d, d? = some d → r.json = false → r.outputOnly = false →
        result.stdout = [h.screen.symbol .info ++ " simplepipe v0.1.0",
          h.screen.symbol .info ++ " Pipeline " ++ h.screen.styled .bold d.name ++ " loaded"]) ∧
      ∀ runner occasion, execute { h with runner, occasion } words s = result) ∧
    ((∀ d?, ¬ Stopped h r d?) → ∃ d args log files, Passed h r d args log files ∧
      result = runBound h verbose r d args (h.load r.file).records log files s) := by
  intro result
  refine ⟨fun d? hstopped => ?_, fun hchecks => ?_⟩
  · obtain ⟨hcode, hstate, hfiles, hstdout, hsame⟩ := execute_of_stopped hwords hstopped s
    refine ⟨hcode, hstate, hfiles, fun hquiet => hstdout.trans ?_, fun d hd hjson honly => hstdout.trans ?_, hsame⟩
    · cases d? with
      | none => rfl
      | some d =>
        have hquiet : r.quiet = true := by simpa [RunRequest.quiet, or_comm] using hquiet
        simp [stoppedLines, RunRequest.header, hquiet]
    · subst hd
      simp [stoppedLines, RunRequest.header, RunRequest.quiet, hjson, honly, headerLines_eq]
  · obtain ⟨d?, hstopped⟩ | ⟨d, args, log, files, hpassed⟩ := stopped_or_passed h r
    · exact absurd hstopped (hchecks d?)
    · have hresult := (execute_run hwords h s).trans (runPipeline_of_passed verbose s hpassed)
      exact ⟨d, args, log, files, hpassed, hresult⟩

/-- A second argument for one input. -/
theorem nothing_runs_unchecked_count :
    let source := "pipeline p\nread a\nbegin\nend"
    let d : Document := { name := "p", inputs := [⟨"a", ""⟩] }
    let h : Host Unit := {
      files := { nodes := [(["p"], .file (Text.utf8 source) false)] }
      time := fun _ => "1970-01-01T00:00:00Z"
      runTime := fun _ => "1970-01-01T00:00:00Z"
      tokens := { letter := fun _ _ => 0 }
      occasion := ⟨.zero, ⟨"1970-01-01T00:00:00Z", by decide⟩, fun _ => .zero, .zero⟩
      runner := fun _ => { call := fun _ command w => ({ reply := .ok command }, w) } }
    let words := ["run", "-f", "p", "--log-file", "log", "1", "2"]
    let r : RunRequest := { file := "p", arguments := ["1", "2"], logFile := some "log" }
    Invocation.ofWords words = .ok ⟨false, .run r⟩ ∧ Stopped h r (some d) ∧
      (execute h words ()).code = 1 ∧ (execute h words ()).files = h.files ∧
      (execute h words ()).stdout = ["ℹ️   simplepipe v0.1.0", "ℹ️   Pipeline p loaded"] := by
  intro source d h words r
  have hwords : Invocation.ofWords words = .ok ⟨false, .run r⟩ := by rfl
  have hread : Platform.readText h.files h.here r.file = .ok source := by cbv
  have hparse : Language.parse h.tokens source = .ok d :=
    (Language.parse_eq_ok_iff h.tokens source d).2 ⟨⟨_, 0⟩, by cbv, rfl⟩
  have hstopped : Stopped h r (some d) := .unbound (Host.value_load hread hparse) (by decide)
  obtain ⟨hcode, -, hfiles, -, hheader, -⟩ := (nothing_runs_unchecked h words () hwords).1 _ hstopped
  exact ⟨hwords, hstopped, hcode, hfiles, hheader d rfl rfl rfl⟩

end CommandPipeline.CommandLine
