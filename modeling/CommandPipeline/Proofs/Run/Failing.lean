import CommandPipeline.Proofs.Run.Protocol
import Mathlib.Data.List.Basic

/-! What a run that fails at a step signals of that step. Its start comes once, and so does its failure, right
behind the log record of the failure and right before the end of the run. -/
namespace CommandPipeline.Run

variable {σ : Type}

/-- The position of the step that an event is about. -/
def Event.index? : Event → Option Nat
  | .stepStarted i _ => some i
  | .stepCompleted i _ _ => some i
  | .stepFailed i _ _ => some i
  | .pipelineStarted _ _ => none
  | .pipelineCompleted _ _ _ => none

theorem mem_events_iff {e : Event} {signals : List Signal} : e ∈ events signals ↔ .event e ∈ signals := by
  rw [events, List.mem_filterMap]
  constructor
  · rintro ⟨signal, hmem, he⟩
    cases signal with
    | event e' => exact Option.some.inj he ▸ hmem
    | call mode command => contradiction
    | record r => contradiction
  · exact fun h => ⟨_, h, rfl⟩

/-- There is one record right before an event that is signaled once. -/
theorem record_unique {before front behind rest : List Signal} {r r' : Log.Record} {e e' : Event}
    (h : before ++ .record r :: .event e :: behind = front ++ .record r' :: .event e' :: rest)
    (hbefore : e' ∉ events before) (hbehind : e' ∉ events behind) : r = r' := by
  have hfront : Signal.event e' ∉ before ++ [.record r] := by
    simpa using mt mem_events_iff.2 hbefore
  rw [List.append_cons, List.append_cons front,
    List.append_cons_inj_of_notMem hfront (mt mem_events_iff.2 hbehind)] at h
  simpa using (List.append_inj' h.1 rfl).2

/-- Performing a step is no event. -/
theorem events_perform (runner : Command.Runner σ) (step : Step) (vars : Bindings) (s : σ) :
    events (perform runner step vars s).signals = [] := by
  rw [← events_seen, seen_perform, stepCall]
  cases callMode? step <;> rfl

/-- The failure of the steps is the last that they signal, and nothing before is about the step that failed
but its start. The first entry that failed is that of the step. -/
theorem signals_of_failed (runner : Command.Runner σ) (elapsed : Nat → Duration) (i : Nat)
    (steps : List Step) (vars : Bindings) (s : σ) :
    let p := runSteps runner elapsed i steps vars s
    ∀ k cause, p.failure = some (k, cause) → ∃ front step inner entry,
      p.signals = front ++ (beforeStep k step ++ inner ++ afterFailure k entry cause) ∧
      firstFailed i p.entries = some (k, entry) ∧ entry.error = some cause.message ∧
      (∀ e ∈ events front, e.index? ≠ some k) ∧ events inner = [] := by
  fun_induction runSteps runner elapsed i steps vars s with
  | case1 i vars s =>
    intro _ k cause h
    contradiction
  | case2 i step rest vars s p hp entry later ih =>
    intro _ k cause h
    obtain ⟨front, failing, inner, failed, hsignals, hentry, herror, hfront, hinner⟩ := ih k cause h
    have hlt : i + 1 ≤ k := ((tabled_runSteps runner elapsed (i + 1) rest p.vars _).le h).1
    refine ⟨beforeStep i step ++ p.signals ++ afterSuccess i entry ++ front, failing, inner, failed, ?_,
      hentry, herror, ?_, hinner⟩
    · show beforeStep i step ++ p.signals ++ afterSuccess i entry ++ later.signals = _
      rw [hsignals, ← List.append_assoc]
    · have hevents : events (beforeStep i step ++ p.signals ++ afterSuccess i entry) =
          [.stepStarted i step.kind, .stepCompleted i entry.command entry.elapsed] := by
        rw [events_append, events_append, events_perform]
        rfl
      rw [events_append, hevents]
      intro e he
      rcases List.mem_append.1 he with he | he
      · simp only [List.mem_cons, List.not_mem_nil, or_false] at he
        rcases he with rfl | rfl <;> simp only [Event.index?, ne_eq, Option.some.injEq] <;> omega
      · exact hfront e he
  | case3 i step rest vars s p e hp entry =>
    intro _ k cause h
    obtain ⟨rfl, rfl⟩ := Prod.mk.inj (Option.some.inj h)
    exact ⟨[], step, p.signals, entry, rfl, rfl, rfl, List.forall_mem_nil _, events_perform runner step vars _⟩

/-! ### A whole run -/

/-- A run with this outcome failed at step `k`. -/
def Outcome.FailsAt (o : Outcome σ) (k : Nat) : Prop := o.failure.bind Failure.step = some k

/-- Of the step at which it fails, a run signals the start, and at last the failure right behind its log record,
and nothing else. The report finds the entry of the step. -/
theorem signals_of_failsAt {runner : Command.Runner σ} {occasion : Occasion} {d : Document}
    {args : Arguments} {s : σ} {k : Nat} (h : (run runner occasion d args s).FailsAt k) :
    ∃ before kind entry reason behind,
      (run runner occasion d args s).signals = before ++
        .record ⟨.error, Log.engine, "Step " ++ toString k ++ " failed: " ++ reason⟩ ::
        .event (.stepFailed k entry.command reason) :: behind ∧
      (run runner occasion d args s).report.failedStep = some (k, entry) ∧ entry.error = some reason ∧
      .stepStarted k kind ∈ events before ∧
      (∀ e ∈ events before, e.index? = some k → e = .stepStarted k kind) ∧
      ∀ e ∈ events behind, e.index? ≠ some k := by
  let p := runSteps runner occasion.elapsed 0 d.steps (d.vars args) (told runner (opening occasion d) s)
  obtain ⟨⟨i, cause⟩, hfailure, hi⟩ := Option.map_eq_some_iff.1 ((step_of_conclude d p).symm.trans h)
  obtain rfl : i = k := hi
  obtain ⟨front, step, inner, entry, hsignals, hentry, herror, hfront, hinner⟩ :=
    signals_of_failed runner occasion.elapsed 0 d.steps (d.vars args) _ i cause hfailure
  have hconclude : conclude d p = { failure := some (some i, cause), output := "", signals := [] } := by
    simp only [conclude, hfailure]
  have hevents : events (opening occasion d ++ front ++ (beforeStep i step ++ inner)) =
      .pipelineStarted occasion.id d.name :: (events front ++ [.stepStarted i step.kind]) := by
    rw [events_append, events_append, events_append, hinner]
    rfl
  refine ⟨opening occasion d ++ front ++ (beforeStep i step ++ inner), step.kind, entry, cause.message,
    closing occasion false, ?_, hentry, herror, ?_, ?_, ?_⟩
  · have hrun : (run runner occasion d args s).signals = opening occasion d ++ p.signals ++
        ((conclude d p).signals ++ closing occasion (conclude d p).failure.isNone) := rfl
    rw [hrun, hconclude, hsignals]
    simp [afterFailure, errorRecord]
  · rw [hevents]
    simp
  · rw [hevents]
    intro e he hindex
    rcases List.mem_cons.1 he with rfl | he
    · contradiction
    · rcases List.mem_append.1 he with he | he
      · exact absurd hindex (hfront e he)
      · exact List.mem_singleton.1 he
  · have hclosing : events (closing occasion false) =
        [.pipelineCompleted occasion.id false occasion.totalTime] := rfl
    rw [hclosing, List.forall_mem_singleton]
    exact nofun

end CommandPipeline.Run
