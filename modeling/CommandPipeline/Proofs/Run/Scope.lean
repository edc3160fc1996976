import CommandPipeline.Proofs.Run.Agreement
import CommandPipeline.Proofs.Run.Composition
import CommandPipeline.Proofs.Run.Course

/-! Names that a run does not find. Since no step adds or drops a name, the document alone decides which
names are missing: a run whose steps and output keep to the names that the document binds can only fail
with a command, and a step with another name is never completed. -/
namespace CommandPipeline

/-- The document binds the names that the step copies from and stores into. -/
def Document.Scopes (d : Document) (step : Step) : Prop :=
  ∀ name, step.source? = some name ∨ step.target? = some name → d.Binds name

namespace Run

variable {σ : Type}

/-! ### One step -/

/-- `Strands runner d p step cause calls`: at the point `p` the step fails with `cause` for it has a name
that the document `d` does not bind, or before this could come out, and it makes `calls` until then.
A source is looked at before a target, and a command runs before its target is looked at. -/
inductive Strands (runner : Command.Runner σ) (d : Document) (p : Point σ) :
    Step → RunError → List (Command.Mode × String) → Prop where
  | source {target source : String} : ¬ d.Binds source →
      Strands runner d p (.assign target source) (.undeclared ⟨source⟩) []
  | target {target source : String} : d.Binds source → ¬ d.Binds target →
      Strands runner d p (.assign target source) (.undeclared ⟨target⟩) []
  | command {target command : String} {e : Command.CommandError} : ¬ d.Binds target →
      (runner.call .captured (p.vars.interpolate command)
        (p.ready runner (.capture target command))).1.reply = .error e →
      Strands runner d p (.capture target command) (.command e)
        [(.captured, p.vars.interpolate command)]
  | captured {target command text : String} : ¬ d.Binds target →
      (runner.call .captured (p.vars.interpolate command)
        (p.ready runner (.capture target command))).1.reply = .ok text →
      Strands runner d p (.capture target command) (.undeclared ⟨target⟩)
        [(.captured, p.vars.interpolate command)]

theorem Strands.not_binds {runner : Command.Runner σ} {d : Document} {p : Point σ} {step : Step}
    {n : String} {calls : List (Command.Mode × String)}
    (h : Strands runner d p step (.undeclared ⟨n⟩) calls) : ¬ d.Binds n := by
  cases h <;> assumption

theorem command_perform_capture (runner : Command.Runner σ) (target command : String)
    (vars : Bindings) (s : σ) :
    (perform runner (.capture target command) vars s).command = vars.interpolate command := by
  simp only [perform, performCapture]
  split <;> rfl

theorem scopes_assign_iff {d : Document} {target source : String} :
    d.Scopes (.assign target source) ↔ d.Binds source ∧ d.Binds target := by
  simp [Document.Scopes, Step.source?, Step.target?, or_imp, forall_and]

theorem scopes_capture_iff {d : Document} {target command : String} :
    d.Scopes (.capture target command) ↔ d.Binds target := by
  simp [Document.Scopes, Step.source?, Step.target?]

theorem scopes_exec (d : Document) (command : String) : d.Scopes (.exec command) := by
  simp [Document.Scopes, Step.source?, Step.target?]

section Point

variable {runner : Command.Runner σ} {d : Document} {p : Point σ} {step : Step}

/-- A step with a name that is not bound strands. -/
theorem strands_of_not_scopes (hp : ∀ name, p.vars.contains name = true ↔ d.Binds name)
    (h : ¬ d.Scopes step) :
    ∃ cause calls, Strands runner d p step cause calls ∧
      (p.perform runner step).outcome = .error cause ∧
      seen (p.perform runner step).signals = calls.map fun c => .call c.1 c.2 := by
  cases step with
  | assign target source =>
    rw [scopes_assign_iff, not_and] at h
    by_cases hsource : d.Binds source
    · obtain ⟨value, hvalue⟩ := Option.isSome_iff_exists.1 ((hp source).2 hsource)
      refine ⟨_, _, .target hsource (h hsource), Performed.outcome_eq_error_iff.2 ?_, ?_⟩
      · simp only [Point.perform, perform, performAssign, Bindings.read, hvalue,
          keep_of_not_contains (mt (hp target).1 (h hsource))]
      · simp only [Point.perform, perform, performAssign, Bindings.read, hvalue]
        rfl
    · have hnone : p.vars.get? source = none := by
        simpa [Bindings.contains] using mt (hp source).1 hsource
      refine ⟨_, _, .source hsource, Performed.outcome_eq_error_iff.2 ?_, ?_⟩ <;>
        simp only [Point.perform, perform, performAssign, Bindings.read, hnone]
      rfl
  | capture target command =>
    rw [scopes_capture_iff] at h
    have hseen : seen (p.perform runner (.capture target command)).signals =
        [.call .captured (p.vars.interpolate command)] := by
      rw [Point.perform, seen_perform, command_perform_capture]
      rfl
    cases hreply : (runner.call .captured (p.vars.interpolate command)
        (p.ready runner (.capture target command))).1.reply with
    | error e =>
      refine ⟨_, _, .command h hreply, Performed.outcome_eq_error_iff.2 ?_, hseen⟩
      simp only [Point.perform, perform, performCapture, hreply]
    | ok text =>
      refine ⟨_, _, .captured h hreply, Performed.outcome_eq_error_iff.2 ?_, hseen⟩
      simp only [Point.perform, perform, performCapture, hreply,
        keep_of_not_contains (mt (hp target).1 h)]
  | exec command => exact absurd (scopes_exec d command) h

/-- A step whose names are bound can only fail with its command. -/
theorem command_of_scopes (hp : ∀ name, p.vars.contains name = true ↔ d.Binds name)
    (h : d.Scopes step) {cause : RunError} (hcause : (p.perform runner step).outcome = .error cause) :
    ∃ e, cause = .command e := by
  rw [Performed.outcome_eq_error_iff] at hcause
  cases step with
  | assign target source =>
    obtain ⟨hsource, htarget⟩ := scopes_assign_iff.1 h
    obtain ⟨value, hvalue⟩ := Option.isSome_iff_exists.1 ((hp source).2 hsource)
    simp only [Point.perform, perform, performAssign, Bindings.read, hvalue,
      keep_of_contains ((hp target).2 htarget)] at hcause
    contradiction
  | capture target command =>
    have htarget := (hp target).2 (scopes_capture_iff.1 h)
    simp only [Point.perform, perform, performCapture] at hcause
    split at hcause
    · exact ⟨_, (Except.error.inj hcause).symm⟩
    · simp only [keep_of_contains htarget] at hcause
      contradiction
  | exec command =>
    simp only [Point.perform, perform, performExec] at hcause
    split at hcause
    · exact ⟨_, (Except.error.inj hcause).symm⟩
    · contradiction

/-- A step fails with its command or strands. -/
theorem command_or_strands (hp : ∀ name, p.vars.contains name = true ↔ d.Binds name)
    {cause : RunError} (hcause : (p.perform runner step).outcome = .error cause) :
    (∃ e, cause = .command e) ∨ ∃ calls, Strands runner d p step cause calls := by
  by_cases h : d.Scopes step
  · exact .inl (command_of_scopes hp h hcause)
  · obtain ⟨cause', calls, hstrands, hcause', -⟩ := strands_of_not_scopes hp h
    obtain rfl : cause' = cause := Except.error.inj (hcause'.symm.trans hcause)
    exact .inr ⟨calls, hstrands⟩

/-- A step that completes has names that are bound. -/
theorem scopes_of_perform (hp : ∀ name, p.vars.contains name = true ↔ d.Binds name) {next : Bindings}
    (hnext : (p.perform runner step).outcome = .ok next) : d.Scopes step := by
  by_contra h
  obtain ⟨cause, calls, -, hcause, -⟩ := strands_of_not_scopes hp h
  rw [hcause] at hnext
  contradiction

end Point

/-! ### All steps -/

theorem Progress.andThen_assoc (p q r : Progress σ) :
    (p.andThen q).andThen r = p.andThen (q.andThen r) := by
  simp only [Progress.andThen, List.append_assoc]

section Course

variable {runner : Command.Runner σ} {elapsed : Nat → Duration} {steps : List Step}

theorem drop_eq_cons {i : Nat} {step : Step} (h : steps[i]? = some step) :
    steps.drop i = step :: steps.drop (i + 1) := by
  rw [List.drop_eq_getElem?_toList_append, h, Option.toList_some, List.singleton_append]

/-- From a point that a run reaches on it goes as the run of the steps that are left there. -/
theorem runSteps_of_reaches {start q : Point σ} (h : Reaches runner elapsed steps start q) :
    ∃ before : Progress σ,
      runSteps runner elapsed start.index (steps.drop start.index) start.vars start.state =
        before.andThen (runSteps runner elapsed q.index (steps.drop q.index) q.vars q.state) := by
  induction h with
  | refl => exact ⟨⟨start.vars, [], none, [], start.state⟩, rfl⟩
  | @tail p q _ hstep ih =>
    obtain ⟨before, hbefore⟩ := ih
    obtain ⟨step, hnext, hindex, hvars, hstate⟩ := hstep
    let entry : Entry := { command := (p.perform runner step).command, elapsed := elapsed p.index }
    let passed : Progress σ := ⟨q.vars, [entry], none,
      beforeStep p.index step ++ (p.perform runner step).signals ++ afterSuccess p.index entry, q.state⟩
    have hpassed : runSteps runner elapsed p.index (steps.drop p.index) p.vars p.state =
        passed.andThen (runSteps runner elapsed q.index (steps.drop q.index) q.vars q.state) := by
      obtain ⟨hresult, hvars⟩ := Performed.outcome_eq_ok_iff.1 hvars
      simp only [Point.perform, Point.ready] at hresult hvars
      simp only [drop_eq_cons hnext, runSteps, hresult, hvars, hindex, hstate]
      rfl
    exact ⟨before.andThen passed, by rw [hbefore, hpassed, Progress.andThen_assoc]⟩

end Course

/-! ### A whole run -/

section Whole

variable {runner : Command.Runner σ} {occasion : Occasion} {d : Document} {args : Arguments} {s : σ}
  {p : Point σ}

/-- The point at which the steps of a run start. -/
def Point.start (runner : Command.Runner σ) (occasion : Occasion) (d : Document) (args : Arguments)
    (s : σ) : Point σ :=
  ⟨0, d.vars args, told runner (opening occasion d) s⟩

theorem contains_of_reached
    (hp : Reaches runner occasion.elapsed d.steps (.start runner occasion d args s) p) (name : String) :
    p.vars.contains name = true ↔ d.Binds name := by
  rw [contains_of_reaches hp]
  exact d.contains_vars args name

/-- The steps before a point that a run reaches have names that are bound. -/
theorem scopes_of_reached
    (hp : Reaches runner occasion.elapsed d.steps (.start runner occasion d args s) p) :
    ∀ step ∈ d.steps.take p.index, d.Scopes step := by
  induction hp with
  | refl => simp [Point.start]
  | @tail p q hp hstep ih =>
    obtain ⟨step, hstep⟩ := hstep
    have htake : d.steps.take q.index = d.steps.take p.index ++ [step] := by
      rw [hstep.index, List.take_add_one, hstep.next]
      rfl
    rw [htake]
    intro other hother
    rcases List.mem_append.1 hother with hother | hother
    · exact ih other hother
    · rw [List.mem_singleton.1 hother]
      exact scopes_of_perform (contains_of_reached hp) hstep.vars

/-- `Closes runner d last failure`: a run of `d` is over at the point `last` with `failure`. -/
inductive Closes (runner : Command.Runner σ) (d : Document) (last : Point σ) : Option Failure → Prop where
  | stepFailed {step : Step} {cause : RunError} : d.steps[last.index]? = some step →
      (last.perform runner step).outcome = .error cause →
      Closes runner d last (some ⟨d.name, some last.index, cause⟩)
  | outputMissing {name : String} : last.index = d.steps.length → d.output = some name →
      ¬ d.Binds name → Closes runner d last (some ⟨d.name, none, .outputNotFound name⟩)
  | succeeded : last.index = d.steps.length → (∀ name, d.output = some name → d.Binds name) →
      Closes runner d last none

theorem closes_of_reached {progress : Progress σ}
    (hp : Reaches runner occasion.elapsed d.steps (.start runner occasion d args s) p)
    (hvars : progress.vars = p.vars) (hends : Ends runner d.steps p progress.failure) :
    Closes runner d p ((conclude d progress).failure.map fun f => ⟨d.name, f.1, f.2⟩) := by
  have hbound := contains_of_reached hp
  cases hf : progress.failure with
  | some f =>
    rw [hf] at hends
    cases hends with
    | failed hnext hcause =>
      simp only [conclude, hf]
      exact .stepFailed hnext hcause
  | none =>
    rw [hf] at hends
    cases hends with
    | completed hindex =>
      cases ho : resolveOutput d.output progress.vars with
      | ok output =>
        simp only [conclude, hf, ho]
        refine .succeeded hindex fun name hname => (hbound name).1 ?_
        rw [Bindings.contains, ← hvars, (resolveOutput_eq_ok ho).2 name hname]
        rfl
      | error e =>
        obtain ⟨name, hname, hnone, rfl⟩ := resolveOutput_eq_error ho
        simp only [conclude, hf, ho]
        refine .outputMissing hindex hname fun h => ?_
        rw [← hbound, Bindings.contains, ← hvars, hnone] at h
        contradiction

variable (runner occasion d args s) in
theorem exists_closes :
    ∃ last, Reaches runner occasion.elapsed d.steps (.start runner occasion d args s) last ∧
      Closes runner d last (run runner occasion d args s).failure := by
  obtain ⟨last, hlast, hvars, hends⟩ := exists_end runner occasion.elapsed 0 d.steps (d.vars args)
    (told runner (opening occasion d) s) [] rfl
  exact ⟨last, hlast, closes_of_reached hlast hvars hends⟩

/-- A run is over where a step fails: after what this step does, it tells of the failure and of its end. -/
theorem run_of_failed {step : Step} {cause : RunError}
    (hp : Reaches runner occasion.elapsed d.steps (.start runner occasion d args s) p)
    (hnext : d.steps[p.index]? = some step) (hcause : (p.perform runner step).outcome = .error cause) :
    let o := run runner occasion d args s
    o.failure = some ⟨d.name, some p.index, cause⟩ ∧
      .event (.stepStarted p.index step.kind) :: seen (p.perform runner step).signals ++
        [.event (.stepFailed p.index (p.perform runner step).command cause.message),
          .event (.pipelineCompleted occasion.id false occasion.totalTime)] <:+ seen o.signals := by
  intro o
  obtain ⟨before, hbefore⟩ := runSteps_of_reaches hp
  rw [Performed.outcome_eq_error_iff] at hcause
  simp only [Point.perform, Point.ready] at hcause
  simp only [drop_eq_cons hnext, runSteps, hcause, Point.start, List.drop_zero] at hbefore
  have hfailure : o.failure = some ⟨d.name, some p.index, cause⟩ := by
    simp only [o, run, hbefore, conclude, Progress.andThen, Option.map_some]
  refine ⟨hfailure, ?_⟩
  rw [seen_run, hfailure, hbefore]
  have hafter : ∀ entry : Entry, seen (afterFailure p.index entry cause) =
      [.event (.stepFailed p.index entry.command cause.message)] := fun _ => rfl
  have hbeforeStep : seen (beforeStep p.index step) = [.event (.stepStarted p.index step.kind)] := rfl
  refine ⟨.event (.pipelineStarted occasion.id d.name) :: seen before.signals, ?_⟩
  simp only [Progress.andThen, seen_append, hafter, hbeforeStep, Point.perform, Point.ready]
  simp

/-- A run whose steps all complete looks for the output last. -/
theorem outputNotFound_of_reached {name : String}
    (hp : Reaches runner occasion.elapsed d.steps (.start runner occasion d args s) p)
    (hindex : p.index = d.steps.length) (hname : d.output = some name) (hunbound : ¬ d.Binds name) :
    (run runner occasion d args s).failure = some ⟨d.name, none, .outputNotFound name⟩ := by
  obtain ⟨before, hbefore⟩ := runSteps_of_reaches hp
  have hnone : p.vars.get? name = none := by
    simpa [Bindings.contains] using mt (contains_of_reached hp name).1 hunbound
  simp only [hindex, List.drop_length, runSteps, Point.start, List.drop_zero] at hbefore
  simp only [run, hbefore, conclude, Progress.andThen, resolveOutput, hname, hnone, Option.map_some]

/-- If all names are bound, a run that fails does so with a command. -/
theorem Closes.command_of_scopes {f : Failure}
    (hp : Reaches runner occasion.elapsed d.steps (.start runner occasion d args s) p)
    (h : Closes runner d p (some f)) (hsteps : ∀ step ∈ d.steps, d.Scopes step)
    (houtput : ∀ name, d.output = some name → d.Binds name) : ∃ e, f.cause = .command e := by
  cases h with
  | stepFailed hnext hcause =>
    have hscopes := hsteps _ (List.mem_of_getElem? hnext)
    exact Run.command_of_scopes (contains_of_reached hp) hscopes hcause
  | outputMissing _ hname hunbound => exact absurd (houtput _ hname) hunbound

/-- A run that does not find a name at a step has come to a step that strands. -/
theorem Closes.strands_of_undeclared {f : Failure} {i : Nat} {n : String}
    (hp : Reaches runner occasion.elapsed d.steps (.start runner occasion d args s) p)
    (h : Closes runner d p (some f)) (hf : f.step = some i) (hn : f.cause = .undeclared ⟨n⟩) :
    p.index = i ∧ ¬ d.Binds n ∧ ∃ step calls, d.steps[i]? = some step ∧
      Strands runner d p step (.undeclared ⟨n⟩) calls := by
  cases h with
  | outputMissing => contradiction
  | @stepFailed step cause hnext hcause =>
    obtain rfl : p.index = i := Option.some.inj hf
    obtain rfl : cause = .undeclared ⟨n⟩ := hn
    rcases command_or_strands (contains_of_reached hp) hcause with ⟨e, he⟩ | ⟨calls, hstrands⟩
    · contradiction
    · exact ⟨rfl, hstrands.not_binds, step, calls, hnext, hstrands⟩

/-- No step fails for the output. -/
theorem Closes.output_of_outputNotFound {f : Failure} {n : String}
    (hp : Reaches runner occasion.elapsed d.steps (.start runner occasion d args s) p)
    (h : Closes runner d p (some f)) (hn : f.cause = .outputNotFound n) :
    p.index = d.steps.length ∧ d.output = some n ∧ ¬ d.Binds n := by
  cases h with
  | @stepFailed step cause hnext hcause =>
    obtain rfl : cause = .outputNotFound n := hn
    rcases command_or_strands (contains_of_reached hp) hcause with ⟨e, he⟩ | ⟨calls, hstrands⟩
    · contradiction
    · cases hstrands
  | outputMissing hindex hname hunbound =>
    obtain rfl := RunError.outputNotFound.inj hn
    exact ⟨hindex, hname, hunbound⟩

end Whole

/-- The document decides which runs fail for the lack of a name. If it binds the names of its steps and its
output, a run can only fail with a command. A name that a run does not find at a step is one that the
document does not bind, and the steps before keep to bound names. A step that does not is never completed:
a run that comes to it fails there, behind the calls that are given here. A run does not find its output
exactly if all steps complete and the document does not bind the name of the output. -/
theorem binding_errors_of_run (runner : Command.Runner σ) (occasion : Occasion) (d : Document)
    (args : Arguments) (s : σ) :
    let o := run runner occasion d args s
    let Reached := Reaches runner occasion.elapsed d.steps (.start runner occasion d args s)
    ((∀ step ∈ d.steps, d.Scopes step) → (∀ name, d.output = some name → d.Binds name) →
      ∀ f, o.failure = some f → ∃ e, f.cause = .command e) ∧
    (∀ f i n, o.failure = some f → f.step = some i → f.cause = .undeclared ⟨n⟩ →
      ¬ d.Binds n ∧ (∀ step ∈ d.steps.take i, d.Scopes step) ∧
      ∃ p step calls, Reached p ∧ p.index = i ∧ d.steps[i]? = some step ∧
        Strands runner d p step (.undeclared ⟨n⟩) calls) ∧
    (∀ p step, Reached p → d.steps[p.index]? = some step → ¬ d.Scopes step →
      (∀ q, ¬ Completes runner occasion.elapsed d.steps p step q) ∧
      ∃ cause calls command, Strands runner d p step cause calls ∧
        o.failure = some ⟨d.name, some p.index, cause⟩ ∧
        .event (.stepStarted p.index step.kind) :: calls.map (fun c => .call c.1 c.2) ++
          [.event (.stepFailed p.index command cause.message),
            .event (.pipelineCompleted occasion.id false occasion.totalTime)] <:+ seen o.signals) ∧
    ∀ n, (∃ f, o.failure = some f ∧ f.cause = .outputNotFound n) ↔
      (∃ last, Reached last ∧ last.index = d.steps.length) ∧ d.output = some n ∧ ¬ d.Binds n := by
  intro o Reached
  obtain ⟨last, hlast, hcloses⟩ := exists_closes runner occasion d args s
  refine ⟨fun hsteps houtput f hf => ?_, fun f i n hf hi hn => ?_, fun p step hp hnext h => ?_,
    fun n => ⟨?_, ?_⟩⟩
  · exact (hf ▸ hcloses).command_of_scopes hlast hsteps houtput
  · obtain ⟨hi', hn', step, calls, hnext, hstrands⟩ :=
      (hf ▸ hcloses).strands_of_undeclared hlast hi hn
    exact ⟨hn', hi' ▸ scopes_of_reached hlast, last, step, calls, hlast, hi', hnext, hstrands⟩
  · obtain ⟨cause, calls, hstrands, hcause, hcalls⟩ :=
      strands_of_not_scopes (contains_of_reached hp) h
    obtain ⟨hfailure, hseen⟩ := run_of_failed hp hnext hcause
    refine ⟨fun q hq => ?_, cause, calls, _, hstrands, hfailure, hcalls ▸ hseen⟩
    have hok := hq.vars
    rw [hcause] at hok
    contradiction
  · rintro ⟨f, hf, hn⟩
    obtain ⟨hindex, hname, hunbound⟩ := (hf ▸ hcloses).output_of_outputNotFound hlast hn
    exact ⟨⟨last, hlast, hindex⟩, hname, hunbound⟩
  · rintro ⟨⟨p, hp, hindex⟩, hname, hunbound⟩
    exact ⟨_, outputNotFound_of_reached hp hindex hname hunbound, rfl⟩

end Run

end CommandPipeline
