import CommandPipeline.Proofs.CommandLine.Checks
import CommandPipeline.Proofs.Run.Agreement

/-! What a run of the program shows. Its exit code tells whether the run failed, its output consists of the
header, a line for each event, the result and the times, and its error output tells of a failure, between
log records. -/
namespace CommandPipeline.CommandLine

open Display (Screen)
open Run (Failure Report)

variable {σ : Type}

/-- The outcome of the run of a document whose arguments are bound and whose log file is open. -/
def Host.outcome (h : Host σ) (verbose : Bool) (d : Document) (args : Arguments)
    (log : Option Platform.Path) (files : Platform.Files) (s : σ) : Run.Outcome (Scene σ) :=
  let note := logTo log verbose h.runTime
  Run.run { h.runner note with hear := note } h.occasion d args { files, own := s }

/-! ### The output -/

/-- `EventShown screen e line`: the line shows the event. Steps are counted from one. -/
inductive EventShown (screen : Screen) : Run.Event → String → Prop where
  | pipelineStarted (id : Uuid) (name : String) : EventShown screen (.pipelineStarted id name)
      (screen.symbol .rocket ++ " Executing pipeline " ++ screen.styled .bold name ++ " (" ++
        screen.styled .dim id.short ++ ")")
  | stepStarted (k : Nat) (kind : StepKind) : EventShown screen (.stepStarted k kind)
      (screen.symbol .hourglass ++ " step " ++ toString (k + 1) ++ " (" ++ screen.styled .dim kind.title ++ ")")
  | stepCompleted (k : Nat) (command : String) (elapsed : Duration) :
      EventShown screen (.stepCompleted k command elapsed)
        (screen.symbol .check ++ " step " ++ toString (k + 1) ++ " [" ++ screen.styled .green command ++ "] " ++
          screen.styled .dim elapsed.render)
  | stepFailed (k : Nat) (command reason : String) : EventShown screen (.stepFailed k command reason)
      (screen.symbol .cross ++ " step " ++ toString (k + 1) ++ " [" ++ screen.styled .red command ++ "]: " ++
        screen.styled .dim reason)
  | completed (id : Uuid) (total : Duration) : EventShown screen (.pipelineCompleted id true total)
      (screen.symbol .info ++ " Pipeline " ++ screen.styled .green "completed" ++ " in " ++ total.render)
  | failed (id : Uuid) (total : Duration) : EventShown screen (.pipelineCompleted id false total)
      (screen.symbol .info ++ " Pipeline " ++ screen.styled .red "failed" ++ " in " ++ total.render)

theorem eventShown_iff {screen : Screen} {e : Run.Event} {line : String} :
    EventShown screen e line ↔ line = Display.eventLine screen e := by
  constructor
  · rintro (_ | _ | _ | _ | _ | _) <;> rfl
  · rintro rfl
    cases e with
    | pipelineStarted id name => exact .pipelineStarted id name
    | stepStarted k kind => exact .stepStarted k kind
    | stepCompleted k command elapsed => exact .stepCompleted k command elapsed
    | stepFailed k command reason => exact .stepFailed k command reason
    | pipelineCompleted id success total =>
      cases success with
      | true => exact .completed id total
      | false => exact .failed id total

/-- Lines that show the events one by one are those that are made of them. -/
theorem forall₂_eventShown_iff {screen : Screen} {es : List Run.Event} {lines : List String} :
    List.Forall₂ (EventShown screen) es lines ↔ lines = es.map (Display.eventLine screen) := by
  induction es generalizing lines with
  | nil => simp
  | cons e es ih => cases lines <;> simp [eventShown_iff, ih]

/-- A handler that makes one line of each event is given the events in their order. -/
theorem deliver_singleton {α : Type} (handler : Run.Event → α) (signals : List Run.Signal) :
    Run.deliver [handler] signals = (Run.events signals).map handler := by
  simp only [Run.deliver, List.map_cons, List.map_nil]
  exact List.map_eq_flatMap.symm

theorem deliver_nil {α : Type} (signals : List Run.Signal) :
    Run.deliver ([] : List (Run.Event → α)) signals = [] := by
  simp [Run.deliver]

/-- The lines up to the result of a run. -/
theorem header_append_progress (r : RunRequest) (screen : Screen) (d : Document)
    (signals : List Run.Signal) :
    r.header screen d ++ r.progress screen signals =
      if r.json ∨ r.outputOnly then []
      else headerLines screen d ++ (Run.events signals).map (Display.eventLine screen) := by
  have hquiet : r.quiet = true ↔ r.json = true ∨ r.outputOnly = true := by
    simp [RunRequest.quiet, or_comm]
  simp only [RunRequest.header, RunRequest.progress, hquiet]
  split_ifs
  · rw [deliver_nil, List.append_nil]
  · rw [deliver_singleton]

/-! ### The error output -/

/-- The line that a run of the document failed. -/
def failedLine (screen : Screen) (d : Document) : String :=
  screen.symbol .cross ++ " " ++ screen.styled .bold d.name ++ " " ++ screen.styled .red "failed"

/-- `Tells screen d report failure lines`: the lines tell how a run of `d` ended that left the report. -/
inductive Tells (screen : Screen) (d : Document) (report : Report) :
    Option Failure → List String → Prop where
  | succeeded : Tells screen d report none []
  | stepFailed {f : Failure} {k : Nat} {entry : Run.Entry} : f.step = some k →
      report.entries[k]? = some entry → entry.error = some f.cause.message →
      Tells screen d report (some f) ["", failedLine screen d,
        "  step " ++ toString (k + 1) ++ " [" ++ entry.command ++ "]: " ++ f.cause.message]
  | outputMissing {f : Failure} : f.step = none →
      Tells screen d report (some f) ["", failedLine screen d]

/-- The step that a failed run is told to have failed at is the first one whose entry has an error. -/
theorem tells_failureLines {screen : Screen} {d : Document} {report : Report} {f : Failure}
    (hagrees : Run.Agrees d report (some f)) :
    Tells screen d report (some f) (failureLines screen d report) := by
  have hfailed := hagrees.failedStep
  cases hagrees with
  | @stepFailed before behind entry cause hentries hbefore hentry =>
    obtain ⟨e, he, hfailed⟩ := hfailed
    obtain rfl : entry = e := by simpa [hentries] using he
    simp only [failureLines, hfailed, Display.failedStepLine, hentry, Option.getD_some]
    exact .stepFailed rfl he hentry
  | outputMissing =>
    simp only [failureLines, show report.failedStep = none from hfailed, List.append_nil]
    exact .outputMissing rfl

/-- The records that the program makes before a run: those of loading its document, and that of a log file. -/
def Host.recordsBefore (h : Host σ) (r : RunRequest) (log : Option Platform.Path) : List Log.Record :=
  (h.load r.file).records ++ match log with
    | some _ => [⟨.debug, Log.program, "Writing run log to " ++ r.logFile.getD ""⟩]
    | none => []

/-- The entries on the screen before a run is over: those of the program, and those of the run unless a log
file takes them. -/
def Host.entriesBefore (h : Host σ) (r : RunRequest) (log : Option Platform.Path)
    (signals : List Run.Signal) : List Log.Entry :=
  Log.stamped h.time 0 (h.recordsBefore r log) ++ match log with
    | some _ => []
    | none => Log.stamped h.runTime 0 (Run.records signals)

/-- The entry of a failure. A run that succeeds is not recorded any further. -/
def Host.entriesBehind (h : Host σ) (r : RunRequest) (log : Option Platform.Path) :
    Option Failure → List Log.Entry
  | some f => [⟨h.time (h.recordsBefore r log).length, .error, Log.program, f.message⟩]
  | none => []

/-- Before and behind the lines that tell of a failure, the error output of a run has log records alone. -/
theorem stderr_runPipeline {h : Host σ} {r : RunRequest} {d : Document} {args : Arguments}
    {log : Option Platform.Path} {files : Platform.Files} (verbose : Bool) (s : σ)
    (hpassed : Passed h r d args log files) :
    let o := h.outcome verbose d args log files s
    ∃ about, Tells h.screen d o.report o.failure about ∧ (runPipeline h verbose r s).stderr =
      h.recordLines verbose (h.entriesBefore r log o.signals) ++ about ++
        h.recordLines verbose (h.entriesBehind r log o.failure) := by
  intro o
  have hagrees : Run.Agrees d o.report o.failure := Run.agrees_run _ _ d args _
  have hstderr : (runPipeline h verbose r s).stderr =
      h.recordLines verbose (h.entriesBefore r log o.signals) ++
        match o.failure with
        | some failure => failureLines h.screen d o.report ++ h.recordLines verbose
            (Log.stamped h.time (h.recordsBefore r log).length [⟨.error, Log.program, failure.message⟩])
        | none => [] := by
    rw [runPipeline_of_passed verbose s hpassed]
    cases log <;> rfl
  rw [hstderr]
  cases hf : o.failure with
  | none => exact ⟨[], .succeeded, by rw [List.append_nil]; exact (List.append_nil _).symm⟩
  | some f =>
    rw [hf] at hagrees
    exact ⟨_, tells_failureLines hagrees, (List.append_assoc _ _ _).symm⟩

/-! ### A whole run -/

/-- The exit code and the streams of a run of the program mirror the outcome of the run, whatever is asked
for. The output has the header and a line for each event, then one report of the result, then the times,
of which there is one for each step of the document even if the run does not come to it. Between log
records, the error output tells of a failure and of the step with it, if there is one. -/
theorem streams_mirror_run (h : Host σ) (words : List String) (s : σ) {verbose : Bool} {r : RunRequest}
    {d : Document} {args : Arguments} {log : Option Platform.Path} {files : Platform.Files}
    (hwords : Invocation.ofWords words = .ok ⟨verbose, .run r⟩) (hpassed : Passed h r d args log files) :
    let o := h.outcome verbose d args log files s
    let result := execute h words s
    result.code = (if o.failure = none then 0 else 1) ∧
    (∃ shown, List.Forall₂ (EventShown h.screen) (Run.events o.signals) shown ∧ result.stdout =
      (if r.json ∨ r.outputOnly then []
        else [h.screen.symbol .info ++ " simplepipe v0.1.0",
          h.screen.symbol .info ++ " Pipeline " ++ h.screen.styled .bold d.name ++ " loaded"] ++ shown) ++
      [if r.json then Json.pretty 0 (Json.ofReport o.report)
        else if r.outputOnly then o.report.output
        else "Pipeline output: " ++ o.report.output] ++
      (if r.time then ["Execution time: " ++ o.report.totalTime.render] else []) ++
      (if r.timeCommands then o.report.entries.map fun e =>
        "Command [ " ++ e.command ++ " ] - Time [ " ++ e.elapsed.render ++ " ]" else [])) ∧
    o.report.entries.length = d.steps.length ∧ (o.failure ≠ none → o.report.output = "") ∧
    (∃ about, Tells h.screen d o.report o.failure about ∧ result.stderr =
      h.recordLines verbose (h.entriesBefore r log o.signals) ++ about ++
        h.recordLines verbose (h.entriesBehind r log o.failure)) ∧
    result.files = o.state.files ∧ result.state = o.state.own := by
  intro o result
  have hresult : result = runPipeline h verbose r s := execute_run hwords h s
  have hrun := hresult.trans (runPipeline_of_passed verbose s hpassed)
  have hagrees : Run.Agrees d o.report o.failure := Run.agrees_run _ _ d args _
  refine ⟨?_, ⟨_, forall₂_eventShown_iff.2 rfl, ?_⟩, Run.length_entries_runSteps _ _ 0 d.steps _ _, ?_, ?_, ?_,
    ?_⟩
  · have hcode : result.code = if o.failure.isSome then 1 else 0 := congrArg Result.code hrun
    rw [hcode]
    cases o.failure <;> rfl
  · have hstdout : result.stdout = r.header h.screen d ++ r.progress h.screen o.signals ++
        r.resultLine o.report :: r.timeLines o.report := congrArg Result.stdout hrun
    rw [hstdout, header_append_progress, headerLines_eq]
    simp only [RunRequest.resultLine, RunRequest.timeLines, Display.timingLines, List.append_assoc,
      List.cons_append, List.nil_append]
    rfl
  · intro hfailure
    obtain ⟨f, hf⟩ := Option.ne_none_iff_exists'.1 hfailure
    exact (hf ▸ hagrees).output_eq_empty
  · rw [hresult]
    exact stderr_runPipeline verbose s hpassed
  · exact congrArg Result.files hrun
  · exact congrArg Result.state hrun

/-- The first of two steps fails, and the second one is never run. -/
theorem streams_mirror_run_stepFailed :
    let source := "pipeline p\nbegin\n(false)\n(true)\nend"
    let d : Document := { name := "p", steps := [.exec "false", .exec "true"] }
    let h : Host Unit := {
      files := { nodes := [(["p"], .file (Text.utf8 source) false)] }
      time := fun _ => "1970-01-01T00:00:00Z"
      runTime := fun _ => "1970-01-01T00:00:00Z"
      tokens := { letter := fun _ _ => 0 }
      occasion := ⟨.zero, ⟨"1970-01-01T00:00:00Z", by decide⟩, fun _ => .zero, .zero⟩
      runner := fun _ => { call := fun _ _ w => ({ reply := .error .empty }, w) } }
    let words := ["run", "-f", "p", "--time", "--time-cmd"]
    let r : RunRequest := { file := "p", time := true, timeCommands := true }
    Invocation.ofWords words = .ok ⟨false, .run r⟩ ∧ Passed h r d ⟨[]⟩ none h.files ∧
      (execute h words ()).code = 1 ∧
      (execute h words ()).stdout =
        ["ℹ️   simplepipe v0.1.0", "ℹ️   Pipeline p loaded", "🚀  Executing pipeline p (00000000)",
          "⏳  step 1 (exec)", "❌  step 1 [false]: empty command", "ℹ️   Pipeline failed in 0.00ms",
          "Pipeline output: ", "Execution time: 0.00ms", "Command [ false ] - Time [ 0.00ms ]",
          "Command [  ] - Time [ 0.00ms ]"] ∧
      ∃ before behind, (execute h words ()).stderr = h.recordLines false before ++
        ["", "❌  p failed", "  step 1 [false]: empty command"] ++ h.recordLines false behind := by
  intro source d h words r
  have hwords : Invocation.ofWords words = .ok ⟨false, .run r⟩ := by rfl
  have hread : Platform.readText h.files h.here r.file = .ok source := by cbv
  have hparse : Language.parse h.tokens source = .ok d :=
    (Language.parse_eq_ok_iff h.tokens source d).2 ⟨⟨_, 0⟩, by cbv, rfl⟩
  have hpassed : Passed h r d ⟨[]⟩ none h.files := ⟨Host.value_load hread hparse, rfl, rfl⟩
  have hfailure : (h.outcome false d ⟨[]⟩ none h.files ()).failure = some ⟨"p", some 0, .command .empty⟩ := by
    rfl
  have hentries : (h.outcome false d ⟨[]⟩ none h.files ()).report.entries =
      [{ command := "false", error := some "empty command" }, {}] := by
    decide +kernel
  have hevents : Run.events (h.outcome false d ⟨[]⟩ none h.files ()).signals =
      [.pipelineStarted .zero "p", .stepStarted 0 .exec, .stepFailed 0 "false" "empty command",
        .pipelineCompleted .zero false .zero] := by
    decide +kernel
  obtain ⟨hcode, ⟨shown, hshown, hstdout⟩, -, houtput, ⟨about, htells, hstderr⟩, -⟩ :=
    streams_mirror_run h words () hwords hpassed
  rw [hfailure] at hcode htells houtput
  rw [hevents, forall₂_eventShown_iff] at hshown
  rw [houtput (by simp), hentries, hshown] at hstdout
  have hlines : (execute h words ()).stdout =
      ["ℹ️   simplepipe v0.1.0", "ℹ️   Pipeline p loaded", "🚀  Executing pipeline p (00000000)",
        "⏳  step 1 (exec)", "❌  step 1 [false]: empty command", "ℹ️   Pipeline failed in 0.00ms",
        "Pipeline output: ", "Execution time: 0.00ms", "Command [ false ] - Time [ 0.00ms ]",
        "Command [  ] - Time [ 0.00ms ]"] := by
    rw [hstdout]
    decide +kernel
  cases htells with
  | stepFailed hstep hentry =>
    cases hstep
    rw [hentries] at hentry
    cases hentry
    exact ⟨hwords, hpassed, hcode, hlines, _, _, hstderr⟩
  | outputMissing hstep => contradiction

end CommandPipeline.CommandLine
