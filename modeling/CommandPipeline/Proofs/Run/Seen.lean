import CommandPipeline.Run.Engine

/-! What event handlers and the runner come to see of a run: the events and the calls among its signals,
in one sequence. A step is seen to call the runner as its kind says, however it turns out. -/
namespace CommandPipeline.Run

variable {σ : Type}

def Signal.isSeen : Signal → Bool
  | .record _ => false
  | _ => true

/-- The events and the calls of the runner among some signals, in their order. -/
def seen (signals : List Signal) : List Signal := signals.filter Signal.isSeen

theorem seen_append (s t : List Signal) : seen (s ++ t) = seen s ++ seen t :=
  List.filter_append s t

theorem seen_records (records : List Log.Record) : seen (records.map Signal.record) = [] := by
  simp [seen, Signal.isSeen]

/-- All events are seen. -/
theorem events_seen (signals : List Signal) : events (seen signals) = events signals := by
  rw [events, seen, List.filterMap_filter]
  congr
  funext signal
  cases signal <;> rfl

/-- All calls are seen. -/
theorem calls_seen (signals : List Signal) : calls (seen signals) = calls signals := by
  rw [calls, seen, List.filterMap_filter]
  congr
  funext signal
  cases signal <;> rfl

theorem calls_of_seen {s t : List Signal} (h : seen s = seen t) : calls s = calls t := by
  rw [← calls_seen s, h, calls_seen]

/-! ### Parts of a run -/

/-- How a step uses the runner, if it does. -/
def callMode? : Step → Option Command.Mode
  | .assign _ _ => none
  | .capture _ _ => some .captured
  | .exec _ => some .plain

/-- The call that a step makes with its command. -/
def stepCall (step : Step) (command : String) : List Signal :=
  (callMode? step).toList.map fun mode => .call mode command

/-- How a step that has left its entry ends. -/
def stepEnd (i : Nat) (entry : Entry) : Event :=
  match entry.error with
  | none => .stepCompleted i entry.command entry.elapsed
  | some e => .stepFailed i entry.command e

/-- All that is seen of step `i`. -/
def stepSeen (i : Nat) (step : Step) (entry : Entry) : List Signal :=
  .event (.stepStarted i step.kind) :: stepCall step entry.command ++ [.event (stepEnd i entry)]

theorem seen_callSignals (mode : Command.Mode) (command : String) (answer : Command.Answer) :
    seen (callSignals mode command answer) = [.call mode command] := by
  rw [callSignals, ← List.singleton_append, seen_append, seen_records]
  rfl

/-- A step calls the runner as its kind says, however it turns out. -/
theorem seen_perform (runner : Command.Runner σ) (step : Step) (vars : Bindings) (s : σ) :
    seen (perform runner step vars s).signals =
      stepCall step (perform runner step vars s).command := by
  cases step with
  | assign target source =>
    simp only [perform, performAssign]
    split <;> rfl
  | capture target command =>
    simp only [perform, performCapture]
    split
    · exact seen_callSignals _ _ _
    · rw [seen_append, seen_callSignals]
      rfl
  | exec command => exact seen_callSignals _ _ _

/-- The end of a run shows nothing of its own but logs. -/
theorem seen_conclude (d : Document) (p : Progress σ) : seen (conclude d p).signals = [] := by
  unfold conclude
  cases p.failure with
  | some f => rfl
  | none => cases resolveOutput d.output p.vars <;> rfl

/-- A run shows its start, what is seen of its steps, and its end. -/
theorem seen_run (runner : Command.Runner σ) (occasion : Occasion) (d : Document) (args : Arguments)
    (s : σ) :
    let o := run runner occasion d args s
    seen o.signals =
      .event (.pipelineStarted occasion.id d.name) ::
        seen (runSteps runner occasion.elapsed 0 d.steps (d.vars args)
          (told runner (opening occasion d) s)).signals ++
        [.event (.pipelineCompleted occasion.id o.failure.isNone occasion.totalTime)] := by
  intro o
  have hopening : seen (opening occasion d) = [.event (.pipelineStarted occasion.id d.name)] := rfl
  have hclosing : ∀ success, seen (closing occasion success) =
      [.event (.pipelineCompleted occasion.id success occasion.totalTime)] := fun _ => rfl
  simp only [o, run, seen_append, seen_conclude, hopening, hclosing, Option.isNone_map]
  rfl

end CommandPipeline.Run
