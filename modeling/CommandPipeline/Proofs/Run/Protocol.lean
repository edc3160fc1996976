import CommandPipeline.Proofs.Run.Recording
import CommandPipeline.Proofs.Run.Steps

/-! The protocol of a run: what event handlers and the runner come to see, in one sequence. Every step
that is entered shows its start, its one call of the runner if it runs a command, and its end, all with
the command of its entry in the table; nothing of a step is seen behind a failure. -/
namespace CommandPipeline.Run

variable {σ : Type}

/-! ### All steps -/

/-- What is seen of steps, of which the first has position `i`, is what is seen of each step that is
entered. -/
theorem seen_runSteps (runner : Command.Runner σ) (elapsed : Nat → Duration) (i : Nat)
    (steps : List Step) (vars : Bindings) (s : σ) :
    let p := runSteps runner elapsed i steps vars s
    seen p.signals =
      (((steps.zip p.entries).zipIdx i).take
        (p.failure.elim steps.length fun f => f.1 + 1 - i)).flatMap
          fun e => stepSeen e.2 e.1.1 e.1.2 := by
  fun_induction runSteps runner elapsed i steps vars s with
  | case1 i vars s => rfl
  | case2 i step rest vars s p hp entry later ih =>
    have hentered : later.failure.elim (step :: rest).length (fun f => f.1 + 1 - i) =
        later.failure.elim rest.length (fun f => f.1 + 1 - (i + 1)) + 1 :=
      (tabled_runSteps runner elapsed (i + 1) rest p.vars _).entered_succ rest.length
    have hbefore : seen (beforeStep i step) = [.event (.stepStarted i step.kind)] := rfl
    have hafter : seen (afterSuccess i entry) = [.event (stepEnd i entry)] := rfl
    simp only [hentered, List.zip_cons_cons, List.zipIdx_cons, List.take_succ_cons,
      List.flatMap_cons, seen_append, hbefore, hafter, p, seen_perform, later, ih]
    simp [stepSeen, entry, p]
  | case3 i step rest vars s p e hp entry =>
    have hbefore : seen (beforeStep i step) = [.event (.stepStarted i step.kind)] := rfl
    have hafter : seen (afterFailure i entry e) = [.event (stepEnd i entry)] := rfl
    simp only [Option.elim_some, Nat.add_sub_cancel_left, List.zip_cons_cons, List.zipIdx_cons,
      List.take_succ_cons, List.take_zero, List.flatMap_cons, List.flatMap_nil, seen_append, hbefore,
      hafter, p, seen_perform]
    simp [stepSeen, entry, p]

/-! ### A whole run -/

/-- The step at which a run failed is the one at which its steps did. -/
theorem step_of_conclude (d : Document) (p : Progress σ) :
    ((conclude d p).failure.map fun f => (⟨d.name, f.1, f.2⟩ : Failure)).bind Failure.step =
      p.failure.map Prod.fst := by
  unfold conclude
  cases p.failure with
  | some f => rfl
  | none => cases resolveOutput d.output p.vars <;> rfl

/-- The number of steps that a run enters: all, or those up to the one that fails. -/
def Outcome.entered (d : Document) (o : Outcome σ) : Nat :=
  (o.failure.bind Failure.step).elim d.steps.length (· + 1)

/-- A run shows that it starts, then each step that it enters, and that it ends. Only the step at which
the run failed shows a failure, and it is the last that is entered. The calls that are seen are those
that the runner gets, and each event goes to every handler. -/
theorem run_follows_protocol (runner : Command.Runner σ) (occasion : Occasion) (d : Document)
    (args : Arguments) (s : σ) :
    let o := run runner occasion d args s
    seen o.signals =
        .event (.pipelineStarted occasion.id d.name) ::
          (((d.steps.zip o.report.entries).zipIdx.take (o.entered d)).flatMap
            fun e => stepSeen e.2 e.1.1 e.1.2) ++
          [.event (.pipelineCompleted occasion.id o.failure.isNone occasion.totalTime)] ∧
      o.report.entries.length = d.steps.length ∧ o.entered d ≤ d.steps.length ∧
      (∀ i e, o.report.entries[i]? = some e →
        (e.failed = true ↔ o.failure.bind Failure.step = some i)) ∧
      (∀ log, (run (recording runner) occasion d args (s, log)).state =
        (o.state, log ++ calls (seen o.signals))) ∧
      ∀ {α : Type} (handlers : List (Event → α)),
        deliver handlers o.signals =
          (events (seen o.signals)).flatMap fun e => handlers.map fun handler => handler e := by
  intro o
  let p := runSteps runner occasion.elapsed 0 d.steps (d.vars args) (told runner (opening occasion d) s)
  have htabled : Tabled 0 p.entries p.failure := tabled_runSteps runner _ 0 d.steps _ _
  have hlength : p.entries.length = d.steps.length := length_entries_runSteps runner _ 0 d.steps _ _
  have hstep : o.failure.bind Failure.step = p.failure.map Prod.fst := step_of_conclude d p
  have hentered : o.entered d = p.failure.elim d.steps.length fun f => f.1 + 1 - 0 := by
    rw [Outcome.entered, hstep]
    cases p.failure <;> rfl
  refine ⟨?_, hlength, ?_, ?_, ?_, ?_⟩
  · have hopening : seen (opening occasion d) = [.event (.pipelineStarted occasion.id d.name)] := rfl
    have hclosing : seen (closing occasion (conclude d p).failure.isNone) =
        [.event (.pipelineCompleted occasion.id o.failure.isNone occasion.totalTime)] := by
      simp only [o, run, Option.isNone_map]
      rfl
    have hsignals : o.signals = opening occasion d ++ p.signals ++
        ((conclude d p).signals ++ closing occasion (conclude d p).failure.isNone) := rfl
    rw [hsignals, hentered, seen_append, seen_append, seen_append, seen_conclude, hopening, hclosing,
      seen_runSteps]
    rfl
  · rw [hentered]
    cases hf : p.failure with
    | none => exact Nat.le_refl _
    | some f =>
      have := (htabled.le hf).2
      simp only [Option.elim_some]
      omega
  · intro i e he
    rw [hstep, htabled.failed_iff he, Nat.zero_add]
  · intro log
    rw [run_recording, calls_seen]
  · intro α handlers
    rw [events_seen, deliver]

end CommandPipeline.Run
