import CommandPipeline.Proofs.Run.Seen

/-! Runner states in the course of a run. What every signal keeps true of the runner's state and the signals
so far is true at the end of the run, and two runners whose answers cannot be told apart go through the same
run. -/
namespace CommandPipeline.Run

variable {σ τ : Type}

theorem records_callSignals (mode : Command.Mode) (command : String) (answer : Command.Answer) :
    records (callSignals mode command answer) = answer.records := by
  show (answer.records.map Signal.record).filterMap Signal.record? = answer.records
  rw [List.filterMap_map]
  exact List.filterMap_some

/-- The end of a run calls no runner. -/
theorem calls_conclude (d : Document) (p : Progress σ) : calls (conclude d p).signals = [] :=
  calls_of_seen (t := []) (seen_conclude d p)

/-! ### A state and the signals so far -/

/-- A relation between the signals so far and the runner's state that every further signal keeps. -/
structure Accompanies (runner : Command.Runner σ) (R : List Signal → σ → Prop) : Prop where
  event : ∀ {past s} (e : Event), R past s → R (past ++ [.event e]) s
  record : ∀ {past s} (r : Log.Record), R past s → R (past ++ [.record r]) (runner.hear r s)
  call : ∀ {past s} (mode : Command.Mode) (command : String), R past s →
    R (past ++ callSignals mode command (runner.call mode command s).1) (runner.call mode command s).2

namespace Accompanies

variable {runner : Command.Runner σ} {R : List Signal → σ → Prop} {past : List Signal} {s : σ}

theorem told (h : Accompanies runner R) (signals : List Signal) (hcalls : calls signals = [])
    (hR : R past s) : R (past ++ signals) (told runner signals s) := by
  induction signals generalizing past s with
  | nil =>
    rw [List.append_nil]
    exact hR
  | cons signal rest ih =>
    rw [List.append_cons]
    cases signal with
    | event e => exact ih hcalls (h.event e hR)
    | record r => exact ih hcalls (h.record r hR)
    | call mode command => simp [calls, Signal.call?] at hcalls

theorem perform (h : Accompanies runner R) (step : Step) (vars : Bindings) (hR : R past s) :
    R (past ++ (perform runner step vars s).signals) (perform runner step vars s).state := by
  cases step with
  | assign target source =>
    simp only [Run.perform, performAssign]
    cases vars.read source <;> simpa using hR
  | capture target command =>
    have hcall := h.call .captured (vars.interpolate command) hR
    simp only [Run.perform, performCapture]
    split
    · exact hcall
    · rw [← List.append_assoc]
      exact h.told _ rfl hcall
  | exec command => exact h.call .plain (vars.interpolate command) hR

theorem runSteps (h : Accompanies runner R) (elapsed : Nat → Duration) (i : Nat) (steps : List Step)
    (vars : Bindings) (s : σ) :
    ∀ past, R past s → R (past ++ (runSteps runner elapsed i steps vars s).signals)
      (runSteps runner elapsed i steps vars s).state := by
  fun_induction Run.runSteps runner elapsed i steps vars s with
  | case1 i vars s =>
    intro past hR
    simpa using hR
  | case2 i step rest vars s p hp entry later ih =>
    intro past hR
    have hbefore : R (past ++ beforeStep i step) (Run.told runner (beforeStep i step) s) := h.told _ rfl hR
    have hafter := h.told (afterSuccess i entry) rfl (h.perform step vars hbefore)
    simpa only [List.append_assoc] using ih _ hafter
  | case3 i step rest vars s p e hp entry =>
    intro past hR
    have hbefore : R (past ++ beforeStep i step) (Run.told runner (beforeStep i step) s) := h.told _ rfl hR
    have hafter := h.told (afterFailure i entry e) rfl (h.perform step vars hbefore)
    simpa only [List.append_assoc] using hafter

/-- A run that starts in a state that goes with no signals ends in one that goes with all its signals. -/
theorem run (h : Accompanies runner R) (occasion : Occasion) (d : Document) (args : Arguments)
    (hR : R [] s) :
    R (run runner occasion d args s).signals (run runner occasion d args s).state := by
  have hopening : R (opening occasion d) (Run.told runner (opening occasion d) s) := h.told _ rfl hR
  have hsteps := h.runSteps occasion.elapsed 0 d.steps (d.vars args) _ _ hopening
  generalize hp : Run.runSteps runner occasion.elapsed 0 d.steps (d.vars args)
    (Run.told runner (opening occasion d) s) = p at hsteps
  have hcalls : calls ((conclude d p).signals ++ closing occasion (conclude d p).failure.isNone) = [] := by
    rw [calls_append, calls_conclude]
    rfl
  simp only [Run.run, hp]
  exact h.told _ hcalls hsteps

end Accompanies

/-! ### Runners that cannot be told apart -/

/-- From related states, two runners give the same answers and go on to related states. -/
structure Matches (a : Command.Runner σ) (b : Command.Runner τ) (S : σ → τ → Prop) : Prop where
  answer : ∀ {s t} (mode : Command.Mode) (command : String), S s t →
    (a.call mode command s).1 = (b.call mode command t).1
  call : ∀ {s t} (mode : Command.Mode) (command : String), S s t →
    S (a.call mode command s).2 (b.call mode command t).2
  hear : ∀ {s t} (r : Log.Record), S s t → S (a.hear r s) (b.hear r t)

namespace Matches

variable {a : Command.Runner σ} {b : Command.Runner τ} {S : σ → τ → Prop} {s : σ} {t : τ}

theorem told (h : Matches a b S) (signals : List Signal) (hS : S s t) :
    S (told a signals s) (told b signals t) := by
  simp only [Run.told, Command.Runner.hearAll]
  induction records signals generalizing s t with
  | nil => exact hS
  | cons r rest ih => exact ih (h.hear r hS)

/-- A step is the same under both runners but for their states. -/
theorem perform (h : Matches a b S) (step : Step) (vars : Bindings) (hS : S s t) :
    ∃ s' t', S s' t' ∧ ∃ command vars' result signals,
      perform a step vars s = ⟨command, vars', result, signals, s'⟩ ∧
      perform b step vars t = ⟨command, vars', result, signals, t'⟩ := by
  cases step with
  | assign target source =>
    simp only [Run.perform, performAssign]
    cases vars.read source <;> exact ⟨s, t, hS, _, _, _, _, rfl, rfl⟩
  | capture target command =>
    have hcall := h.call .captured (vars.interpolate command) hS
    simp only [Run.perform, performCapture, h.answer .captured (vars.interpolate command) hS]
    cases (b.call .captured (vars.interpolate command) t).1.reply with
    | error e => exact ⟨_, _, hcall, _, _, _, _, rfl, rfl⟩
    | ok text => exact ⟨_, _, h.told _ hcall, _, _, _, _, rfl, rfl⟩
  | exec command =>
    simp only [Run.perform, performExec, h.answer .plain (vars.interpolate command) hS]
    exact ⟨_, _, h.call .plain (vars.interpolate command) hS, _, _, _, _, rfl, rfl⟩

theorem runSteps (h : Matches a b S) (elapsed : Nat → Duration) (i : Nat) (steps : List Step)
    (vars : Bindings) (hS : S s t) :
    ∃ s' t', S s' t' ∧ ∃ vars' entries failure signals,
      runSteps a elapsed i steps vars s = ⟨vars', entries, failure, signals, s'⟩ ∧
      runSteps b elapsed i steps vars t = ⟨vars', entries, failure, signals, t'⟩ := by
  induction steps generalizing i vars s t with
  | nil => exact ⟨s, t, hS, _, _, _, _, rfl, rfl⟩
  | cons step rest ih =>
    obtain ⟨s', t', hS', command, next, result, signals, hs, ht⟩ :=
      h.perform step vars (h.told (beforeStep i step) hS)
    simp only [Run.runSteps, hs, ht]
    cases result with
    | ok _ =>
      let entry : Entry := { command, elapsed := elapsed i }
      obtain ⟨s'', t'', hS'', _, _, _, _, hs', ht'⟩ := ih (i + 1) next (h.told (afterSuccess i entry) hS')
      simp only [entry] at hs' ht'
      simp only [hs', ht']
      exact ⟨s'', t'', hS'', _, _, _, _, rfl, rfl⟩
    | error e => exact ⟨_, _, h.told _ hS', _, _, _, _, rfl, rfl⟩

/-- A run is the same under both runners but for their states. -/
theorem run (h : Matches a b S) (occasion : Occasion) (d : Document) (args : Arguments) (hS : S s t) :
    ∃ s' t', S s' t' ∧ ∃ report failure signals,
      run a occasion d args s = ⟨report, failure, signals, s'⟩ ∧
      run b occasion d args t = ⟨report, failure, signals, t'⟩ := by
  obtain ⟨s', t', hS', _, _, _, _, hs, ht⟩ :=
    h.runSteps occasion.elapsed 0 d.steps (d.vars args) (h.told (opening occasion d) hS)
  simp only [Run.run, hs, ht]
  exact ⟨_, _, h.told _ hS', _, _, _, rfl, rfl⟩

end Matches

end CommandPipeline.Run
