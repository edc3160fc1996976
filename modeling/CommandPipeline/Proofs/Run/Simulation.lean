import CommandPipeline.Run.Engine

/-! Runs that go side by side. If no step can tell two choices of variables apart, and every step keeps
them related, the runs that start with them differ in their variables only. -/
namespace CommandPipeline.Run

variable {σ : Type} {R : Bindings → Bindings → Prop}

/-! ### One step -/

/-- A step that cannot tell related variables apart and keeps them related. -/
structure Blind (R : Bindings → Bindings → Prop) (step : Step) : Prop where
  source : ∀ {a b}, R a b → ∀ name, step.source? = some name → a.get? name = b.get? name
  command : ∀ {a b}, R a b → ∀ command, step.command? = some command →
    a.interpolate command = b.interpolate command
  target : ∀ {a b}, R a b → ∀ name value, step.target? = some name →
    (keep a name value).1 = (keep b name value).1 ∧ R (keep a name value).2 (keep b name value).2

structure Performed.Agree (R : Bindings → Bindings → Prop) (p q : Performed σ) : Prop where
  command : p.command = q.command
  vars : R p.vars q.vars
  result : p.result = q.result
  signals : p.signals = q.signals
  state : p.state = q.state

theorem agree_perform (runner : Command.Runner σ) {step : Step} {a b : Bindings} (h : Blind R step)
    (hab : R a b) (s : σ) : (perform runner step a s).Agree R (perform runner step b s) := by
  cases step with
  | assign target source =>
    simp only [perform, performAssign, Bindings.read, h.source hab source rfl]
    cases b.get? source with
    | none => exact ⟨rfl, hab, rfl, rfl, rfl⟩
    | some value =>
      obtain ⟨hresult, hvars⟩ := h.target hab target value rfl
      exact ⟨rfl, hvars, hresult, rfl, rfl⟩
  | capture target command =>
    simp only [perform, performCapture, h.command hab command rfl]
    cases (runner.call .captured (b.interpolate command) s).1.reply with
    | error e => exact ⟨rfl, hab, rfl, rfl, rfl⟩
    | ok text =>
      obtain ⟨hresult, hvars⟩ := h.target hab target text rfl
      exact ⟨rfl, hvars, hresult, rfl, rfl⟩
  | exec command =>
    simp only [perform, performExec, h.command hab command rfl]
    exact ⟨rfl, hab, rfl, rfl, rfl⟩

/-! ### All steps -/

structure Progress.Agree (R : Bindings → Bindings → Prop) (p q : Progress σ) : Prop where
  vars : R p.vars q.vars
  entries : p.entries = q.entries
  failure : p.failure = q.failure
  signals : p.signals = q.signals
  state : p.state = q.state

theorem agree_runSteps (runner : Command.Runner σ) (elapsed : Nat → Duration) {steps : List Step}
    (h : ∀ step ∈ steps, Blind R step) (i : Nat) {a b : Bindings} (hab : R a b) (s : σ) :
    (runSteps runner elapsed i steps a s).Agree R (runSteps runner elapsed i steps b s) := by
  induction steps generalizing i a b s with
  | nil => exact ⟨hab, rfl, rfl, rfl, rfl⟩
  | cons step rest ih =>
    obtain ⟨hstep, hrest⟩ := List.forall_mem_cons.1 h
    obtain ⟨hcommand, hnext, hresult, hsignals, hstate⟩ :=
      agree_perform runner hstep hab (told runner (beforeStep i step) s)
    simp only [runSteps, hcommand, hresult, hsignals, hstate]
    cases (perform runner step b (told runner (beforeStep i step) s)).result with
    | error cause => exact ⟨hnext, rfl, rfl, rfl, rfl⟩
    | ok _ =>
      have hlater := ih hrest (i + 1) hnext
      exact ⟨(hlater _).vars, congrArg (_ :: ·) (hlater _).entries, (hlater _).failure,
        congrArg (_ ++ ·) (hlater _).signals, (hlater _).state⟩

/-! ### A whole run -/

structure Outcome.Agree (R : Bindings → Bindings → Prop) (o o' : Outcome σ) : Prop where
  vars : R o.report.vars o'.report.vars
  entries : o.report.entries = o'.report.entries
  output : o.report.output = o'.report.output
  failure : o.failure = o'.failure
  signals : o.signals = o'.signals
  state : o.state = o'.state

/-- The outcome with other variables in its report. -/
def Outcome.withVars (o : Outcome σ) (vars : Bindings) : Outcome σ :=
  { o with report := { o.report with vars } }

/-- Outcomes that agree are one but for their variables, if they are of one occasion. -/
theorem Outcome.Agree.eq {f : Bindings → Bindings} {o o' : Outcome σ}
    (h : o.Agree (fun a b => b = f a) o') (hid : o.report.id = o'.report.id)
    (hstarted : o.report.startedAt = o'.report.startedAt)
    (htotal : o.report.totalTime = o'.report.totalTime) :
    o' = o.withVars (f o.report.vars) := by
  have hvars : o'.report.vars = f o.report.vars := h.vars
  simp only [Outcome.withVars, ← hvars, hid, hstarted, htotal, h.entries, h.output, h.failure,
    h.signals, h.state]

/-- Two documents with the same steps and the same output run alike if they start with variables that
neither the steps nor the output can tell apart. -/
theorem agree_run (runner : Command.Runner σ) (occasion : Occasion) (d d' : Document)
    (args args' : Arguments) (hname : d.name = d'.name) (hsteps : d.steps = d'.steps)
    (houtput : d.output = d'.output) (hblind : ∀ step ∈ d.steps, Blind R step)
    (hread : ∀ {a b}, R a b → ∀ name, d.output = some name → a.get? name = b.get? name)
    (hvars : R (d.vars args) (d'.vars args')) (s : σ) :
    (run runner occasion d args s).Agree R (run runner occasion d' args' s) := by
  have hopening : opening occasion d' = opening occasion d := by simp only [opening, hname]
  have h := agree_runSteps runner occasion.elapsed hblind 0 hvars (told runner (opening occasion d) s)
  simp only [run, hopening, ← hsteps]
  generalize runSteps runner occasion.elapsed 0 d.steps (d.vars args)
    (told runner (opening occasion d) s) = p at h ⊢
  generalize runSteps runner occasion.elapsed 0 d.steps (d'.vars args')
    (told runner (opening occasion d) s) = q at h ⊢
  have hresolve : resolveOutput d.output p.vars = resolveOutput d.output q.vars := by
    unfold resolveOutput
    cases ho : d.output with
    | none => rfl
    | some name => simp only [hread h.vars name ho]
  have hconclude : conclude d p = conclude d' q := by
    simp only [conclude, h.failure, ← houtput, hresolve]
  exact ⟨h.vars, h.entries, by rw [hconclude], by rw [hconclude, hname],
    by rw [hconclude, h.signals], by rw [hconclude, h.state]⟩

end CommandPipeline.Run
