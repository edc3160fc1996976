import CommandPipeline.Proofs.Run.Seeding
import CommandPipeline.Run.Engine
import Mathlib.Logic.Relation

/-! The variables in the course of a run, from one completed step to the next. A step that completes
changes no variable but its target, and a step that fails changes none, so that a variable ends with what
the last completed step of that target stored, or else with the value that it started with. -/
namespace CommandPipeline.Run

variable {σ : Type}

/-! ### One step -/

/-- What a step stores if it completes: the value of its source, or the text that the runner gives. -/
def stored? (runner : Command.Runner σ) (step : Step) (vars : Bindings) (s : σ) : Option String :=
  match step with
  | .assign _ source => vars.get? source
  | .capture _ command => (runner.call .captured (vars.interpolate command) s).1.reply.toOption
  | .exec _ => none

theorem contains_of_keep {vars : Bindings} {target value : String}
    (h : (keep vars target value).1 = .ok ()) : vars.contains target = true := by
  by_cases htarget : vars.contains target = true
  · exact htarget
  · rw [keep_of_not_contains htarget] at h
    contradiction

/-- A step that completes stores a value in a variable that there is, or has no target. -/
theorem stores_of_perform {runner : Command.Runner σ} {step : Step} {vars next : Bindings} {s : σ}
    (h : (perform runner step vars s).outcome = .ok next) :
    (∃ target value, step.target? = some target ∧ stored? runner step vars s = some value ∧
      vars.contains target = true ∧ next = vars.insert target value) ∨
    (step.target? = none ∧ next = vars) := by
  obtain ⟨hresult, rfl⟩ := Performed.outcome_eq_ok_iff.1 h
  cases step with
  | assign target source =>
    simp only [perform, performAssign, Bindings.read] at hresult ⊢
    cases hv : vars.get? source with
    | none => simp [hv] at hresult
    | some value =>
      simp only [hv] at hresult ⊢
      have htarget := contains_of_keep hresult
      exact .inl ⟨target, value, rfl, hv, htarget, by rw [keep_of_contains htarget]⟩
  | capture target command =>
    simp only [perform, performCapture] at hresult ⊢
    cases hr : (runner.call .captured (vars.interpolate command) s).1.reply with
    | error e => simp [hr] at hresult
    | ok text =>
      simp only [hr] at hresult ⊢
      have htarget := contains_of_keep hresult
      exact .inl ⟨target, text, rfl, by simp [stored?, hr, Except.toOption], htarget,
        by rw [keep_of_contains htarget]⟩
  | exec command => exact .inr ⟨rfl, rfl⟩

/-- A step that fails leaves all variables as they are, also where its command has run before. -/
theorem vars_of_perform_error {runner : Command.Runner σ} {step : Step} {vars : Bindings} {s : σ}
    {cause : RunError} (h : (perform runner step vars s).outcome = .error cause) :
    (perform runner step vars s).vars = vars := by
  have hkept : ∀ target value, (keep vars target value).1 = .error cause →
      (keep vars target value).2 = vars := by
    intro target value hkeep
    have hstore : (keep vars target value).1 = (vars.store target value).1.mapError .undeclared := rfl
    cases hresult : (vars.store target value).1 with
    | error e => exact Bindings.store_of_error hresult
    | ok u =>
      rw [hstore, hresult] at hkeep
      contradiction
  have hresult := Performed.outcome_eq_error_iff.1 h
  cases step with
  | assign target source =>
    simp only [perform, performAssign] at hresult ⊢
    cases hv : vars.read source with
    | error e => rfl
    | ok value =>
      simp only [hv] at hresult ⊢
      exact hkept target value hresult
  | capture target command =>
    simp only [perform, performCapture] at hresult ⊢
    cases hr : (runner.call .captured (vars.interpolate command) s).1.reply with
    | error e => rfl
    | ok text =>
      simp only [hr] at hresult ⊢
      exact hkept target text hresult
  | exec command => rfl

/-- A step that completes changes no variable but its target. -/
theorem get?_of_perform {runner : Command.Runner σ} {step : Step} {vars next : Bindings} {s : σ}
    (h : (perform runner step vars s).outcome = .ok next) (v : String) :
    next.get? v = if step.target? = some v then stored? runner step vars s else vars.get? v := by
  rcases stores_of_perform h with ⟨target, value, ht, hv, -, rfl⟩ | ⟨ht, rfl⟩
  · simp [Bindings.get?_insert, ht, hv, eq_comm]
  · simp [ht]

/-- A step that completes brings no variable into being. -/
theorem contains_of_perform {runner : Command.Runner σ} {step : Step} {vars next : Bindings} {s : σ}
    (h : (perform runner step vars s).outcome = .ok next) (v : String) :
    next.contains v = vars.contains v := by
  rcases stores_of_perform h with ⟨target, value, -, -, ht, rfl⟩ | ⟨-, rfl⟩
  · exact Bindings.contains_insert_of_contains ht value v
  · rfl

/-! ### Points -/

/-- Where a run stands once the steps before position `index` have completed. -/
structure Point (σ : Type) where
  index : Nat
  vars : Bindings
  state : σ

/-- The runner's state when a step at a point is performed. -/
def Point.ready (runner : Command.Runner σ) (p : Point σ) (step : Step) : σ :=
  told runner (beforeStep p.index step) p.state

def Point.perform (runner : Command.Runner σ) (p : Point σ) (step : Step) : Performed σ :=
  Run.perform runner step p.vars (p.ready runner step)

section Course

variable (runner : Command.Runner σ) (elapsed : Nat → Duration) (steps : List Step)

/-- The step at the point `p` completes, and the run goes on at the point `q`. -/
structure Completes (p : Point σ) (step : Step) (q : Point σ) : Prop where
  next : steps[p.index]? = some step
  index : q.index = p.index + 1
  vars : (p.perform runner step).outcome = .ok q.vars
  state : q.state = told runner
    (afterSuccess p.index { command := (p.perform runner step).command, elapsed := elapsed p.index })
    (p.perform runner step).state

/-- A run comes from one point to another. -/
def Reaches : Point σ → Point σ → Prop :=
  Relation.ReflTransGen fun p q => ∃ step, Completes runner elapsed steps p step q

/-- A run of the steps is over at a point: none is left, or the next one fails. -/
inductive Ends (q : Point σ) : Option (Nat × RunError) → Prop where
  | completed : q.index = steps.length → Ends q none
  | failed {step : Step} {cause : RunError} : steps[q.index]? = some step →
      (q.perform runner step).outcome = .error cause → Ends q (some (q.index, cause))

/-- No step from position `i` up to `j` has the target `v`. -/
def Untouched (i j : Nat) (v : String) : Prop :=
  ∀ k step, i ≤ k → k < j → steps[k]? = some step → step.target? ≠ some v

/-- Between two points a step with the target `v` stores `value`, and no later one has that target. -/
def LastStores (start q : Point σ) (v value : String) : Prop :=
  ∃ p step r, Reaches runner elapsed steps start p ∧ Completes runner elapsed steps p step r ∧
    Reaches runner elapsed steps r q ∧ step.target? = some v ∧
    stored? runner step p.vars (p.ready runner step) = some value ∧ Untouched steps r.index q.index v

variable {runner elapsed steps} {start p q : Point σ}

theorem contains_of_reaches (h : Reaches runner elapsed steps start q) (v : String) :
    q.vars.contains v = start.vars.contains v := by
  induction h with
  | refl => rfl
  | tail _ hstep ih =>
    obtain ⟨step, hstep⟩ := hstep
    rw [contains_of_perform hstep.vars, ih]

theorem Untouched.succ {i j : Nat} {v : String} {step : Step} (h : Untouched steps i j v)
    (hj : steps[j]? = some step) (hv : step.target? ≠ some v) : Untouched steps i (j + 1) v := by
  intro k other hi hk hother
  rcases Nat.lt_succ_iff_lt_or_eq.1 hk with hk | rfl
  · exact h k other hi hk hother
  · rw [hj] at hother
    exact Option.some.inj hother ▸ hv

theorem untouched_self (i : Nat) (v : String) : Untouched steps i i v :=
  fun _ _ hi hj _ => absurd hi (Nat.not_le.2 hj)

/-- The last step that completes with a target decides its value. -/
theorem get?_of_reaches (h : Reaches runner elapsed steps start q) (v : String) :
    (Untouched steps start.index q.index v ∧ q.vars.get? v = start.vars.get? v) ∨
      ∃ value, LastStores runner elapsed steps start q v value ∧ q.vars.get? v = some value := by
  induction h with
  | refl => exact .inl ⟨untouched_self _ v, rfl⟩
  | @tail p q hp hstep ih =>
    obtain ⟨step, hstep⟩ := hstep
    have hget := get?_of_perform hstep.vars v
    split_ifs at hget with hv
    · rcases stores_of_perform hstep.vars with ⟨_, value, -, hvalue, -, -⟩ | ⟨ht, -⟩
      · exact .inr ⟨value, ⟨p, step, q, hp, hstep, .refl, hv, hvalue, untouched_self _ v⟩,
          hget.trans hvalue⟩
      · simp [ht] at hv
    · rw [hget, hstep.index]
      rcases ih with ⟨hu, hkept⟩ | ⟨value, ⟨p', other, r, hp', hother, hr, ht, hvalue, hu⟩, hkept⟩
      · exact .inl ⟨hu.succ hstep.next hv, hkept⟩
      · refine .inr ⟨value, ⟨p', other, r, hp', hother, hr.tail ⟨step, hstep⟩, ht, hvalue, ?_⟩, hkept⟩
        rw [hstep.index]
        exact hu.succ hstep.next hv

end Course

/-! ### A whole run -/

/-- Running the steps behind some others leads to a point at which the run is over. -/
theorem exists_end (runner : Command.Runner σ) (elapsed : Nat → Duration) (i : Nat)
    (rest : List Step) (vars : Bindings) (s : σ) :
    let p := runSteps runner elapsed i rest vars s
    ∀ done : List Step, done.length = i →
      ∃ last, Reaches runner elapsed (done ++ rest) ⟨i, vars, s⟩ last ∧
        p.vars = last.vars ∧ Ends runner (done ++ rest) last p.failure := by
  fun_induction runSteps runner elapsed i rest vars s with
  | case1 i vars s =>
    intro _ done hi
    exact ⟨⟨i, vars, s⟩, .refl, rfl, .completed (by simp [hi])⟩
  | case2 i step rest vars s p hp entry later ih =>
    intro _ done hi
    have hnext : (done ++ step :: rest)[i]? = some step := by simp [← hi]
    have hstep : Completes runner elapsed (done ++ step :: rest) ⟨i, vars, s⟩ step
        ⟨i + 1, p.vars, told runner (afterSuccess i entry) p.state⟩ :=
      ⟨hnext, rfl, Performed.outcome_eq_ok_iff.2 ⟨hp, rfl⟩, rfl⟩
    obtain ⟨last, hreaches, hvars, hends⟩ := ih (done ++ [step]) (by simp [hi])
    rw [List.append_assoc, List.singleton_append] at hreaches hends
    exact ⟨last, hreaches.head ⟨step, hstep⟩, hvars, hends⟩
  | case3 i step rest vars s p cause hp entry =>
    intro _ done hi
    have hnext : (done ++ step :: rest)[i]? = some step := by simp [← hi]
    have hfails : p.outcome = .error cause := Performed.outcome_eq_error_iff.2 hp
    exact ⟨⟨i, vars, s⟩, .refl, vars_of_perform_error hfails, .failed hnext hfails⟩

/-- The step at which a run failed, with the cause. -/
def Failure.atStep? (f : Failure) : Option (Nat × RunError) := f.step.map fun k => (k, f.cause)

/-- A run fails at a step exactly if its steps do. -/
theorem atStep?_run (runner : Command.Runner σ) (occasion : Occasion) (d : Document)
    (args : Arguments) (s : σ) :
    (run runner occasion d args s).failure.bind Failure.atStep? =
      (runSteps runner occasion.elapsed 0 d.steps (d.vars args)
        (told runner (opening occasion d) s)).failure := by
  simp only [run]
  generalize runSteps runner occasion.elapsed 0 d.steps (d.vars args)
    (told runner (opening occasion d) s) = p
  unfold conclude
  cases p.failure with
  | some f => rfl
  | none => cases resolveOutput d.output p.vars <;> rfl

/-- At each point of a run there is a variable for each input and each declaration and no other, and a
step that completes changes its target only. A run is over at a point at which no step is left or the
next one fails, and the variables of the report are those of that point: each has the value that the last
completed step of that target stored, or the one that it started with if there is no such step. -/
theorem variables_of_run (runner : Command.Runner σ) (occasion : Occasion) (d : Document)
    (args : Arguments) (s : σ) :
    let o := run runner occasion d args s
    let start : Point σ := ⟨0, d.vars args, told runner (opening occasion d) s⟩
    let Reached := Reaches runner occasion.elapsed d.steps start
    (∀ p, Reached p → ∀ v, v ∈ p.vars.names ↔
      v ∈ d.inputs.map Input.name ∨ v ∈ d.declarations.names) ∧
    (∀ p step q, Reached p → Completes runner occasion.elapsed d.steps p step q → ∀ v,
      q.vars.get? v = if step.target? = some v then stored? runner step p.vars (p.ready runner step)
        else p.vars.get? v) ∧
    ∃ last, Reached last ∧ o.report.vars = last.vars ∧
      Ends runner d.steps last (o.failure.bind Failure.atStep?) ∧
      ∀ v, (Untouched d.steps 0 last.index v ∧ o.report.vars.get? v = (d.vars args).get? v) ∨
        ∃ value, LastStores runner occasion.elapsed d.steps start last v value ∧
          o.report.vars.get? v = some value := by
  intro o start Reached
  obtain ⟨last, hlast, hvars, hends⟩ := exists_end runner occasion.elapsed 0 d.steps (d.vars args)
    (told runner (opening occasion d) s) [] rfl
  have hreport : o.report.vars = last.vars := hvars
  refine ⟨fun p hp v => ?_, fun p step q _ h v => get?_of_perform h.vars v, last, hlast, hreport, ?_,
    fun v => ?_⟩
  · rw [Bindings.mem_names_iff, contains_of_reaches hp, ← Bindings.mem_names_iff,
      Document.mem_names_vars]
  · rw [atStep?_run]
    exact hends
  · rw [hreport]
    exact get?_of_reaches hlast v

end CommandPipeline.Run
