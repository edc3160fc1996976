import CommandPipeline.Interpolation
import CommandPipeline.Run.Event

/-! Running a document. Steps run one after another in the order of the document, and the first one
that fails ends the run. -/
namespace CommandPipeline.Run

/-! ### Errors -/

inductive RunError where
  | undeclared (e : Undeclared)
  | command (e : Command.CommandError)
  /-- No variable has the name of the output. -/
  | outputNotFound (name : String)
  deriving DecidableEq, Repr

def RunError.message : RunError → String
  | .undeclared e => e.message
  | .command e => e.message
  | .outputNotFound name => "output variable not found: " ++ name

structure Failure where
  pipeline : String
  /-- The step that failed, or none if only the output could not be found. -/
  step : Option Nat
  cause : RunError
  deriving DecidableEq, Repr

def Failure.message (f : Failure) : String :=
  "pipeline " ++ f.pipeline ++ " failed: " ++ f.cause.message

/-! ### One step -/

/-- What performing a step gives. -/
structure Performed (σ : Type) where
  /-- The command with its variables replaced, or the value that is copied. -/
  command : String
  /-- The variables after the step, whether or not it succeeded. -/
  vars : Bindings
  result : Except RunError Unit
  signals : List Signal := []
  state : σ

namespace Performed

variable {σ : Type} {p : Performed σ}

/-- The variables after a step that succeeded, or why the step failed. -/
def outcome (p : Performed σ) : Except RunError Bindings := p.result.map fun _ => p.vars

theorem outcome_eq_ok_iff {next : Bindings} : p.outcome = .ok next ↔ p.result = .ok () ∧ p.vars = next := by
  unfold outcome
  cases p.result <;> simp [Except.map]

theorem outcome_eq_error_iff {e : RunError} : p.outcome = .error e ↔ p.result = .error e := by
  unfold outcome
  cases p.result <;> simp [Except.map]

end Performed

/-- Stores the value of a step. -/
def keep (vars : Bindings) (target value : String) : Except RunError Unit × Bindings :=
  (vars.store target value).map (·.mapError .undeclared) id

theorem keep_of_contains {vars : Bindings} {target : String} (h : vars.contains target = true)
    (value : String) : keep vars target value = (.ok (), vars.insert target value) := by
  rw [keep, Bindings.store, if_pos h]
  rfl

theorem keep_of_not_contains {vars : Bindings} {target : String} (h : ¬ vars.contains target = true)
    (value : String) : keep vars target value = (.error (.undeclared ⟨target⟩), vars) := by
  rw [keep, Bindings.store, if_neg h]
  rfl

def performAssign {σ : Type} (target source : String) (vars : Bindings) (s : σ) : Performed σ :=
  match vars.read source with
  | .error e => { command := "", vars, result := .error (.undeclared e), state := s }
  | .ok value =>
    let kept := keep vars target value
    { command := value, vars := kept.2, result := kept.1, state := s }

/-- The signals of a command that is given to a runner. -/
def callSignals (mode : Command.Mode) (command : String) (answer : Command.Answer) : List Signal :=
  .call mode command :: answer.records.map .record

def performCapture {σ : Type} (runner : Command.Runner σ) (target command : String) (vars : Bindings)
    (s : σ) : Performed σ :=
  let command := vars.interpolate command
  let (answer, s) := runner.call .captured command s
  let signals := callSignals .captured command answer
  match answer.reply with
  | .error e => { command, vars, result := .error (.command e), signals, state := s }
  | .ok text =>
    let captured : List Signal := [.record ⟨.debug, Log.executor,
      "captured " ++ toString text.utf8ByteSize ++ " bytes into " ++ target⟩]
    let kept := keep vars target text
    { command
      vars := kept.2
      result := kept.1
      signals := signals ++ captured
      state := told runner captured s }

def performExec {σ : Type} (runner : Command.Runner σ) (command : String) (vars : Bindings) (s : σ) :
    Performed σ :=
  let command := vars.interpolate command
  let (answer, s) := runner.call .plain command s
  { command
    vars
    result := match answer.reply with
      | .error e => .error (.command e)
      | .ok _ => .ok ()
    signals := callSignals .plain command answer
    state := s }

def perform {σ : Type} (runner : Command.Runner σ) (step : Step) (vars : Bindings) (s : σ) :
    Performed σ :=
  match step with
  | .assign target source => performAssign target source vars s
  | .capture target command => performCapture runner target command vars s
  | .exec command => performExec runner command vars s

/-! ### All steps -/

def infoRecord (message : String) : Signal := .record ⟨.info, Log.engine, message⟩

def errorRecord (message : String) : Signal := .record ⟨.error, Log.engine, message⟩

/-- The signals before a step. -/
def beforeStep (i : Nat) (step : Step) : List Signal :=
  [infoRecord ("Running [" ++ step.render ++ "]"), .event (.stepStarted i step.kind)]

/-- The signals after a step that succeeded. -/
def afterSuccess (i : Nat) (entry : Entry) : List Signal :=
  [infoRecord ("Finished [" ++ entry.command ++ "] in " ++ entry.elapsed.exact),
   .event (.stepCompleted i entry.command entry.elapsed)]

/-- The signals after a step that failed. -/
def afterFailure (i : Nat) (entry : Entry) (e : RunError) : List Signal :=
  [errorRecord ("Step " ++ toString i ++ " failed: " ++ e.message),
   .event (.stepFailed i entry.command e.message)]

/-- What running a list of steps gives. -/
structure Progress (σ : Type) where
  vars : Bindings
  entries : List Entry
  failure : Option (Nat × RunError)
  signals : List Signal
  state : σ

/-- Runs the steps, of which the first has position `i`. -/
def runSteps {σ : Type} (runner : Command.Runner σ) (elapsed : Nat → Duration) :
    Nat → List Step → Bindings → σ → Progress σ
  | _, [], vars, s => { vars, entries := [], failure := none, signals := [], state := s }
  | i, step :: rest, vars, s =>
    let p := perform runner step vars (told runner (beforeStep i step) s)
    match p.result with
    | .ok () =>
      let entry : Entry := { command := p.command, elapsed := elapsed i }
      let later := runSteps runner elapsed (i + 1) rest p.vars (told runner (afterSuccess i entry) p.state)
      { later with
        entries := entry :: later.entries
        signals := beforeStep i step ++ p.signals ++ afterSuccess i entry ++ later.signals }
    | .error e =>
      let entry : Entry := { command := p.command, error := some e.message, elapsed := elapsed i }
      { vars := p.vars
        entries := entry :: rest.map fun _ => {}
        failure := some (i, e)
        signals := beforeStep i step ++ p.signals ++ afterFailure i entry e
        state := told runner (afterFailure i entry e) p.state }

/-- There is one entry for each step, whether or not the run reaches it. -/
theorem length_entries_runSteps {σ : Type} (runner : Command.Runner σ) (elapsed : Nat → Duration)
    (i : Nat) (steps : List Step) (vars : Bindings) (s : σ) :
    (runSteps runner elapsed i steps vars s).entries.length = steps.length := by
  induction steps generalizing i vars s with
  | nil => rfl
  | cons step rest ih =>
    unfold runSteps
    simp only
    split <;> simp [ih]

/-! ### A whole run -/

/-- What running a document gives. -/
structure Outcome (σ : Type) where
  report : Report
  failure : Option Failure
  signals : List Signal
  /-- The runner's state after the run. -/
  state : σ

/-- The value of the output variable. A document without one has an empty output. -/
def resolveOutput (output : Option String) (vars : Bindings) : Except RunError String :=
  match output with
  | none => .ok ""
  | some name =>
    match vars.get? name with
    | some value => .ok value
    | none => .error (.outputNotFound name)

/-- How a run ends once its steps are over: the failing step, the cause, the output, and what is
logged. -/
structure Conclusion where
  failure : Option (Option Nat × RunError)
  output : String
  signals : List Signal

def conclude {σ : Type} (d : Document) (p : Progress σ) : Conclusion :=
  match p.failure with
  | some (i, e) => { failure := some (some i, e), output := "", signals := [] }
  | none =>
    match resolveOutput d.output p.vars with
    | .ok output => { failure := none, output, signals := [] }
    | .error e => { failure := some (none, e), output := "", signals := [errorRecord e.message] }

/-- The signals that open a run. -/
def opening (occasion : Occasion) (d : Document) : List Signal :=
  [infoRecord ("Starting pipeline " ++ d.name ++ " (" ++ occasion.id.render ++ ")"),
   .event (.pipelineStarted occasion.id d.name)]

/-- The signals that close a run. -/
def closing (occasion : Occasion) (success : Bool) : List Signal :=
  [infoRecord ("Pipeline execution time " ++ occasion.totalTime.exact),
   .event (.pipelineCompleted occasion.id success occasion.totalTime)]

/-- Runs a document with arguments. -/
def run {σ : Type} (runner : Command.Runner σ) (occasion : Occasion) (d : Document) (args : Arguments)
    (s : σ) : Outcome σ :=
  let s := told runner (opening occasion d) s
  let p := runSteps runner occasion.elapsed 0 d.steps (d.vars args) s
  let c := conclude d p
  let after := c.signals ++ closing occasion c.failure.isNone
  { report := {
      id := occasion.id
      startedAt := occasion.startedAt
      vars := p.vars
      entries := p.entries
      totalTime := occasion.totalTime
      output := c.output }
    failure := c.failure.map fun f => ⟨d.name, f.1, f.2⟩
    signals := opening occasion d ++ p.signals ++ after
    state := told runner after p.state }

end CommandPipeline.Run
