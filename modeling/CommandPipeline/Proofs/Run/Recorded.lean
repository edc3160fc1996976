import CommandPipeline.Proofs.Run.Accompanying
import CommandPipeline.Proofs.Run.Agreement
import CommandPipeline.Proofs.Run.Course
import CommandPipeline.Proofs.Run.Protocol

/-! What is logged of a run whose runner logs nothing itself. The records tell the table of the run: its
start, for each step that is entered that it runs and how it ended, an output that could not be found, and
the time that the run took. Only the size of a captured text stands between the two records of a step, and
only the debug level shows it. -/
namespace CommandPipeline.Run

variable {σ : Type}

/-- A runner that logs nothing itself. -/
def Silent (runner : Command.Runner σ) : Prop :=
  ∀ mode command s, (runner.call mode command s).1.records = []

/-! ### The records of a run -/

def startingRecord (occasion : Occasion) (d : Document) : Log.Record :=
  ⟨.info, Log.engine, "Starting pipeline " ++ d.name ++ " (" ++ occasion.id.render ++ ")"⟩

def runningRecord (step : Step) : Log.Record := ⟨.info, Log.engine, "Running [" ++ step.render ++ "]"⟩

/-- How step `i`, which left the entry, ended. -/
def endRecord (i : Nat) (entry : Entry) : Log.Record :=
  match entry.error with
  | none => ⟨.info, Log.engine, "Finished [" ++ entry.command ++ "] in " ++ entry.elapsed.exact⟩
  | some e => ⟨.error, Log.engine, "Step " ++ toString i ++ " failed: " ++ e⟩

/-- The size of the text that a step captures, if its command succeeds. Whether the text can be stored
does not matter. -/
def capturedRecords (runner : Command.Runner σ) (p : Point σ) (step : Step) : List Log.Record :=
  match step with
  | .capture target command =>
    match (runner.call .captured (p.vars.interpolate command) (p.ready runner step)).1.reply with
    | .ok text => [⟨.debug, Log.executor,
        "captured " ++ toString text.utf8ByteSize ++ " bytes into " ++ target⟩]
    | .error _ => []
  | _ => []

/-- No step failed, and no variable has the name of the output. -/
def outputRecords (d : Document) (r : Report) : List Log.Record :=
  match r.failedStep, d.output with
  | none, some name =>
    if r.vars.contains name then []
    else [⟨.error, Log.engine, "output variable not found: " ++ name⟩]
  | _, _ => []

def timeRecord (occasion : Occasion) : Log.Record :=
  ⟨.info, Log.engine, "Pipeline execution time " ++ occasion.totalTime.exact⟩

/-- The records of the steps that are entered at some points, with the records `inner` behind that of a
step which runs. -/
def stepRecords (inner : Point σ → Step → List Log.Record) (table : List (Step × Entry))
    (points : List (Point σ)) : List Log.Record :=
  (table.zip points).flatMap fun e =>
    runningRecord e.1.1 :: inner e.2 e.1.1 ++ [endRecord e.2.index e.1.2]

theorem stepRecords_nil (inner : Point σ → Step → List Log.Record) (table : List (Step × Entry)) :
    stepRecords inner table [] = [] := by
  rw [stepRecords, List.zip_nil_right]
  rfl

theorem stepRecords_cons (inner : Point σ → Step → List Log.Record) (step : Step) (entry : Entry)
    (table : List (Step × Entry)) (p : Point σ) (points : List (Point σ)) :
    stepRecords inner ((step, entry) :: table) (p :: points) =
      (runningRecord step :: inner p step ++ [endRecord p.index entry]) ++
        stepRecords inner table points := rfl

/-- The records of a whole run. -/
def runRecords (inner : Point σ → Step → List Log.Record) (occasion : Occasion) (d : Document)
    (r : Report) (points : List (Point σ)) : List Log.Record :=
  startingRecord occasion d :: stepRecords inner (d.steps.zip r.entries) points ++
    outputRecords d r ++ [timeRecord occasion]

/-! ### Levels -/

/-- Verbose or not, a log file takes all records up to the info level. -/
theorem fileTakes_of_le {r : Log.Record} (h : r.level.rank ≤ Log.Level.info.rank) (verbose : Bool) :
    Log.fileTakes verbose r = true := by
  cases verbose
  · exact decide_eq_true h
  · exact decide_eq_true (Nat.le_succ_of_le h)

theorem fileTakes_endRecord (verbose : Bool) (i : Nat) (entry : Entry) :
    Log.fileTakes verbose (endRecord i entry) = true := by
  refine fileTakes_of_le ?_ verbose
  unfold endRecord
  cases entry.error with
  | none => exact Nat.le_refl _
  | some e => exact (by decide : Log.Level.error.rank ≤ Log.Level.info.rank)

theorem filter_outputRecords (verbose : Bool) (d : Document) (r : Report) :
    (outputRecords d r).filter (Log.fileTakes verbose) = outputRecords d r := by
  unfold outputRecords
  split
  · split
    · rfl
    · cases verbose <;> rfl
  · rfl

/-- Whatever its level, a log file takes all records of a run but some of those inside its steps. -/
theorem filter_runRecords {verbose : Bool} {inner shown : Point σ → Step → List Log.Record}
    (h : ∀ p step, (inner p step).filter (Log.fileTakes verbose) = shown p step)
    (occasion : Occasion) (d : Document) (r : Report) (points : List (Point σ)) :
    (runRecords inner occasion d r points).filter (Log.fileTakes verbose) =
      runRecords shown occasion d r points := by
  have hstarting : Log.fileTakes verbose (startingRecord occasion d) = true :=
    fileTakes_of_le (Nat.le_refl _) verbose
  have hrunning : ∀ step, Log.fileTakes verbose (runningRecord step) = true :=
    fun step => fileTakes_of_le (Nat.le_refl _) verbose
  have htime : Log.fileTakes verbose (timeRecord occasion) = true :=
    fileTakes_of_le (Nat.le_refl _) verbose
  simp [runRecords, stepRecords, List.filter_flatMap, hstarting, hrunning, htime, h,
    fileTakes_endRecord, filter_outputRecords]

theorem filter_capturedRecords_verbose (runner : Command.Runner σ) (p : Point σ) (step : Step) :
    (capturedRecords runner p step).filter (Log.fileTakes true) = capturedRecords runner p step := by
  unfold capturedRecords
  split
  · split <;> rfl
  · rfl

theorem filter_capturedRecords_plain (runner : Command.Runner σ) (p : Point σ) (step : Step) :
    (capturedRecords runner p step).filter (Log.fileTakes false) = [] := by
  unfold capturedRecords
  split
  · split <;> rfl
  · rfl

/-! ### One step -/

/-- Performing a step logs the size of a captured text and nothing else. -/
theorem records_perform {runner : Command.Runner σ} (hsilent : Silent runner) (p : Point σ)
    (step : Step) : records (p.perform runner step).signals = capturedRecords runner p step := by
  cases step with
  | assign target source =>
    simp only [Point.perform, perform, performAssign]
    split <;> rfl
  | capture target command =>
    have hcall : ∀ s, records (callSignals .captured (p.vars.interpolate command)
        (runner.call .captured (p.vars.interpolate command) s).1) = [] :=
      fun s => (records_callSignals _ _ _).trans (hsilent _ _ _)
    simp only [Point.perform, perform, performCapture, capturedRecords]
    cases (runner.call .captured (p.vars.interpolate command)
      (p.ready runner (.capture target command))).1.reply with
    | error e => exact hcall _
    | ok text =>
      simp only [records_append, hcall]
      rfl
  | exec command => exact (records_callSignals _ _ _).trans (hsilent _ _ _)

/-! ### All steps -/

/-- Running the steps behind some others logs each step that is entered, at the point at which the run
comes to it. -/
theorem records_runSteps {runner : Command.Runner σ} (hsilent : Silent runner)
    (elapsed : Nat → Duration) (i : Nat) (rest : List Step) (vars : Bindings) (s : σ) :
    let p := runSteps runner elapsed i rest vars s
    ∀ done : List Step, done.length = i → ∃ points : List (Point σ),
      points.map Point.index = List.range' i (p.failure.elim rest.length fun f => f.1 + 1 - i) ∧
      (∀ q ∈ points, Reaches runner elapsed (done ++ rest) ⟨i, vars, s⟩ q) ∧
      records p.signals = stepRecords (capturedRecords runner) (rest.zip p.entries) points := by
  fun_induction runSteps runner elapsed i rest vars s with
  | case1 i vars s =>
    intro _ done hi
    exact ⟨[], rfl, by simp, rfl⟩
  | case2 i step rest vars s p hp entry later ih =>
    intro _ done hi
    have hnext : (done ++ step :: rest)[i]? = some step := by simp [← hi]
    have hstep : Completes runner elapsed (done ++ step :: rest) ⟨i, vars, s⟩ step
        ⟨i + 1, p.vars, told runner (afterSuccess i entry) p.state⟩ :=
      ⟨hnext, rfl, Performed.outcome_eq_ok_iff.2 ⟨hp, rfl⟩, rfl⟩
    obtain ⟨points, hindices, hreached, hrecords⟩ := ih (done ++ [step]) (by simp [hi])
    rw [List.append_assoc, List.singleton_append] at hreached
    refine ⟨⟨i, vars, s⟩ :: points, ?_, ?_, ?_⟩
    · have hentered : later.failure.elim (rest.length + 1) (fun f => f.1 + 1 - i) =
          later.failure.elim rest.length (fun f => f.1 + 1 - (i + 1)) + 1 :=
        (tabled_runSteps runner elapsed (i + 1) rest p.vars _).entered_succ rest.length
      show _ = List.range' i (later.failure.elim (rest.length + 1) _)
      rw [hentered, List.range'_succ, List.map_cons]
      exact congrArg _ hindices
    · simp only [List.mem_cons, forall_eq_or_imp]
      exact ⟨.refl, fun q hq => (hreached q hq).head ⟨step, hstep⟩⟩
    · have hperform : records p.signals = capturedRecords runner ⟨i, vars, s⟩ step :=
        records_perform hsilent ⟨i, vars, s⟩ step
      rw [records_append, records_append, records_append, hperform, hrecords, List.zip_cons_cons,
        stepRecords_cons]
      rfl
  | case3 i step rest vars s p cause hp entry =>
    intro _ done hi
    have hperform : records p.signals = capturedRecords runner ⟨i, vars, s⟩ step :=
      records_perform hsilent ⟨i, vars, s⟩ step
    refine ⟨[⟨i, vars, s⟩], ?_, ?_, ?_⟩
    · show [i] = List.range' i (i + 1 - i)
      rw [Nat.add_sub_cancel_left]
      rfl
    · simp only [List.mem_singleton, forall_eq]
      exact .refl
    · rw [records_append, records_append, hperform, List.zip_cons_cons, stepRecords_cons, stepRecords_nil,
        List.append_nil]
      rfl

/-! ### A whole run -/

/-- The end of a run logs an output that could not be found. -/
theorem records_conclude {d : Document} {r : Report} {p : Progress σ}
    (hfailed : r.failedStep = none ↔ p.failure = none) (hvars : r.vars = p.vars) :
    records (conclude d p).signals = outputRecords d r := by
  unfold outputRecords
  cases hf : p.failure with
  | some f =>
    obtain ⟨failed, hfailed⟩ := Option.ne_none_iff_exists'.1 (mt hfailed.1 (by simp [hf]))
    simp only [conclude, hf, hfailed]
    rfl
  | none =>
    rw [hfailed.2 hf, hvars]
    cases ho : resolveOutput d.output p.vars with
    | ok output =>
      obtain ⟨-, hsome⟩ := resolveOutput_eq_ok ho
      simp only [conclude, hf, ho]
      cases hd : d.output with
      | none => rfl
      | some name => simp [Bindings.contains, hsome name hd, records]
    | error e =>
      obtain ⟨name, hname, hunbound, rfl⟩ := resolveOutput_eq_error ho
      simp only [conclude, hf, ho]
      have hmessage : (RunError.outputNotFound name).message = "output variable not found: " ++ name := rfl
      simp [hname, Bindings.contains, hunbound, records, errorRecord, Signal.record?, hmessage]

/-- The report finds a failed step exactly if the steps of the run failed. -/
theorem failedStep_eq_none_iff (runner : Command.Runner σ) (occasion : Occasion) (d : Document)
    (args : Arguments) (s : σ) :
    (run runner occasion d args s).report.failedStep = none ↔
      (runSteps runner occasion.elapsed 0 d.steps (d.vars args)
        (told runner (opening occasion d) s)).failure = none := by
  let p := runSteps runner occasion.elapsed 0 d.steps (d.vars args) (told runner (opening occasion d) s)
  have hstep : (run runner occasion d args s).failure.bind Failure.step = p.failure.map Prod.fst :=
    step_of_conclude d p
  have hfailed := (agrees_run runner occasion d args s).failedStep
  rw [hstep] at hfailed
  show _ ↔ p.failure = none
  cases hf : p.failure with
  | none => simpa [hf] using hfailed
  | some f =>
    simp only [hf, Option.map_some] at hfailed
    obtain ⟨entry, -, hentry⟩ := hfailed
    simp [hentry]

/-- `Mirrored runner occasion d start o points`: the points are those at which a run that starts at `start`
and has the outcome `o` enters a step, and the records of the run are those of its report. -/
structure Mirrored (runner : Command.Runner σ) (occasion : Occasion) (d : Document) (start : Point σ)
    (o : Outcome σ) (points : List (Point σ)) : Prop where
  indices : points.map Point.index = List.range (o.entered d)
  reached : ∀ p ∈ points, Reaches runner occasion.elapsed d.steps start p
  plain : (records o.signals).filter (Log.fileTakes false) =
    runRecords (fun _ _ => []) occasion d o.report points
  verbose : (records o.signals).filter (Log.fileTakes true) =
    runRecords (capturedRecords runner) occasion d o.report points

theorem exists_mirrored {runner : Command.Runner σ} (hsilent : Silent runner) (occasion : Occasion)
    (d : Document) (args : Arguments) (s : σ) :
    ∃ points, Mirrored runner occasion d ⟨0, d.vars args, told runner (opening occasion d) s⟩
      (run runner occasion d args s) points := by
  let p := runSteps runner occasion.elapsed 0 d.steps (d.vars args) (told runner (opening occasion d) s)
  obtain ⟨points, hindices, hreached, hrecords⟩ := records_runSteps hsilent occasion.elapsed 0 d.steps
    (d.vars args) (told runner (opening occasion d) s) [] rfl
  have hconclude : records (conclude d p).signals =
      outputRecords d (run runner occasion d args s).report :=
    records_conclude (failedStep_eq_none_iff runner occasion d args s) rfl
  have hall : records (run runner occasion d args s).signals =
      runRecords (capturedRecords runner) occasion d (run runner occasion d args s).report points := by
    have hsignals : (run runner occasion d args s).signals = opening occasion d ++ p.signals ++
        ((conclude d p).signals ++ closing occasion (conclude d p).failure.isNone) := rfl
    rw [hsignals, records_append, records_append, records_append, hrecords, hconclude,
      ← List.append_assoc]
    rfl
  refine ⟨points, ?_, hreached, ?_, ?_⟩
  · have hstep : (run runner occasion d args s).failure.bind Failure.step = p.failure.map Prod.fst :=
      step_of_conclude d p
    rw [hindices, Outcome.entered, hstep, List.range_eq_range']
    show List.range' 0 (p.failure.elim _ _) = _
    cases p.failure <;> rfl
  · rw [hall]
    exact filter_runRecords (filter_capturedRecords_plain runner) occasion d _ points
  · rw [hall]
    exact filter_runRecords (filter_capturedRecords_verbose runner) occasion d _ points

example :
    let runner : Command.Runner Unit := { call := fun _ command s => ({ reply := .ok command }, s) }
    let d : Document := { name := "p", steps := [.exec "true", .capture "lost" "date"] }
    let occasion : Occasion := ⟨.zero, ⟨"1970-01-01T00:00:00Z", by decide⟩, fun _ => .zero, .zero⟩
    (records (run runner occasion d ⟨[]⟩ ()).signals).map Log.Record.message =
      ["Starting pipeline p (00000000-0000-0000-0000-000000000000)",
        "Running [(true)]", "Finished [true] in 0ns",
        "Running [lost = (date)]", "captured 4 bytes into lost",
        "Step 1 failed: undeclared variable: lost",
        "Pipeline execution time 0ns"] := by
  decide +kernel

end CommandPipeline.Run
