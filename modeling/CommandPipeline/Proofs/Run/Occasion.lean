import CommandPipeline.Proofs.Run.Composition

/-! What a run owes to its occasion. Under a runner that gives its answers without regard to the log, two
runs of a document that start alike differ in their identities and times only. -/
namespace CommandPipeline.Run

variable {σ : Type}

/-! ### Identity and time left out -/

/-- The event without its times, under the identity that has zeros only. -/
def Event.untimed : Event → Event
  | .pipelineStarted _ name => .pipelineStarted .zero name
  | .stepStarted i kind => .stepStarted i kind
  | .stepCompleted i command _ => .stepCompleted i command .zero
  | .stepFailed i command error => .stepFailed i command error
  | .pipelineCompleted _ success _ => .pipelineCompleted .zero success .zero

def Signal.untimed : Signal → Signal
  | .event e => .event e.untimed
  | .call mode command => .call mode command
  | .record r => .record r

/-- The events and the calls among some signals, without identities and times. -/
def untimedSeen (signals : List Signal) : List Signal := (seen signals).map Signal.untimed

theorem untimedSeen_append (s t : List Signal) :
    untimedSeen (s ++ t) = untimedSeen s ++ untimedSeen t := by
  simp only [untimedSeen, seen_append, List.map_append]

/-- Two runs that differ in identities and times, and perhaps in the variables that they leave. -/
structure Outcome.SameBut (o o' : Outcome σ) : Prop where
  seen : untimedSeen o.signals = untimedSeen o'.signals
  entries : o.report.entries.map Entry.untimed = o'.report.entries.map Entry.untimed
  output : o.report.output = o'.report.output
  failure : o.failure = o'.failure
  state : o.state = o'.state

/-! ### Two occasions -/

/-- How long steps take makes no difference to what is seen of them but the times. -/
theorem untimedSeen_runSteps (call : Command.Mode → String → σ → Command.Answer × σ)
    (elapsed elapsed' : Nat → Duration) (i : Nat) (steps : List Step) (vars : Bindings) (s : σ) :
    untimedSeen (runSteps (answering call) elapsed i steps vars s).signals =
      untimedSeen (runSteps (answering call) elapsed' i steps vars s).signals := by
  induction steps generalizing i vars s with
  | nil => rfl
  | cons step rest ih =>
    simp only [runSteps, told_answering]
    cases (perform (answering call) step vars s).result with
    | error cause =>
      simp only [untimedSeen_append]
      rfl
    | ok _ =>
      simp only [untimedSeen_append, ih (i + 1) (perform (answering call) step vars s).vars]
      rfl

theorem sameBut_run (call : Command.Mode → String → σ → Command.Answer × σ)
    (occasion occasion' : Occasion) (d : Document) (args : Arguments) (s : σ) :
    let o := run (answering call) occasion d args s
    let o' := run (answering call) occasion' d args s
    o.SameBut o' ∧ o.report.vars = o'.report.vars := by
  intro o o'
  let p' := runSteps (answering call) occasion'.elapsed 0 d.steps (d.vars args) s
  have h : o.Shows d 0 p' := shows_run (alike_runSteps call _ _ 0 0 d.steps (d.vars args) s)
  have h' : o'.Shows d 0 p' := shows_run (.refl p')
  have hfailure : o.failure = o'.failure := h.failure.trans h'.failure.symm
  have hsteps := untimedSeen_runSteps call occasion.elapsed occasion'.elapsed 0 d.steps (d.vars args) s
  have hseen : untimedSeen o.signals = untimedSeen o'.signals := by
    simp only [untimedSeen] at hsteps
    simp only [untimedSeen, o, o', seen_run, told_answering, List.map_append, List.map_cons, hsteps]
    simp only [List.map_nil, Signal.untimed, Event.untimed]
    rw [hfailure]
  exact ⟨⟨hseen, h.entries.trans h'.entries.symm, h.output.trans h'.output.symm, hfailure,
    h.state.trans h'.state.symm⟩, h.vars.trans h'.vars.symm⟩

end CommandPipeline.Run
