import CommandPipeline.Proofs.Run.Steps

/-! A report and the failure of its run tell the same story. The first entry with an error is that of
the failing step and carries the text of the cause, and a run that fails in no step fails because no
variable has the name of the output. -/
namespace CommandPipeline.Run

variable {σ : Type}

/-! ### Texts of causes -/

theorem append_ne_empty {a : String} (h : a ≠ "") (b : String) : a ++ b ≠ "" :=
  fun he => h (String.append_eq_empty_iff.1 he).1

theorem commandMessage_ne_empty (e : Command.CommandError) : e.message ≠ "" := by
  cases e with
  | empty => decide
  | notStarted program fault =>
    exact append_ne_empty (append_ne_empty (append_ne_empty (by decide) _) _) _
  | failed command code stderr =>
    exact append_ne_empty (append_ne_empty (append_ne_empty (by decide) _) _) _
  | notText fault => exact append_ne_empty (by decide) _

theorem message_ne_empty (e : RunError) : e.message ≠ "" := by
  cases e with
  | undeclared e => exact append_ne_empty (by decide) _
  | command e => exact commandMessage_ne_empty e
  | outputNotFound name => exact append_ne_empty (by decide) _

/-! ### The first entry with an error -/

theorem firstFailed_eq_none {entries : List Entry} (i : Nat) (h : ∀ e ∈ entries, e.error = none) :
    firstFailed i entries = none := by
  induction entries generalizing i with
  | nil => rfl
  | cons e rest ih =>
    simp only [firstFailed, Entry.failed, h e (by simp), Option.isSome_none]
    exact ih (i + 1) fun e he => h e (by simp [he])

theorem firstFailed_append {before behind : List Entry} {entry : Entry} (i : Nat)
    (hbefore : ∀ e ∈ before, e.error = none) (hentry : entry.failed = true) :
    firstFailed i (before ++ entry :: behind) = some (i + before.length, entry) := by
  induction before generalizing i with
  | nil => simp [firstFailed, hentry]
  | cons e rest ih =>
    simp only [List.cons_append, firstFailed, Entry.failed, hbefore e (by simp), Option.isSome_none]
    rw [List.length_cons, ← Nat.add_assoc, Nat.add_right_comm]
    exact ih (i + 1) fun e he => hbefore e (by simp [he])

/-! ### Agreement -/

/-- `Agrees d r failure`: a run of `d` that left the report `r` ended with `failure`. -/
inductive Agrees (d : Document) (r : Report) : Option Failure → Prop where
  | succeeded : (∀ e ∈ r.entries, e.error = none) → (d.output = none → r.output = "") →
      (∀ name, d.output = some name → r.vars.get? name = some r.output) → Agrees d r none
  | stepFailed {before behind : List Entry} {entry : Entry} {cause : RunError} :
      r.entries = before ++ entry :: behind → (∀ e ∈ before, e.error = none) →
      entry.error = some cause.message → cause.message ≠ "" → (∀ e ∈ behind, e = {}) →
      r.output = "" → Agrees d r (some ⟨d.name, some before.length, cause⟩)
  | outputMissing {name : String} : (∀ e ∈ r.entries, e.error = none) → d.output = some name →
      r.vars.get? name = none → r.output = "" →
      Agrees d r (some ⟨d.name, none, .outputNotFound name⟩)

theorem resolveOutput_eq_ok {output : Option String} {vars : Bindings} {text : String}
    (h : resolveOutput output vars = .ok text) :
    (output = none → text = "") ∧ ∀ name, output = some name → vars.get? name = some text := by
  cases output with
  | none => simpa [resolveOutput, eq_comm] using h
  | some name =>
    simp only [resolveOutput] at h
    cases hv : vars.get? name with
    | none => simp [hv] at h
    | some value => simpa [hv] using h

theorem resolveOutput_eq_error {output : Option String} {vars : Bindings} {e : RunError}
    (h : resolveOutput output vars = .error e) :
    ∃ name, output = some name ∧ vars.get? name = none ∧ e = .outputNotFound name := by
  cases output with
  | none => simp [resolveOutput] at h
  | some name =>
    simp only [resolveOutput] at h
    cases hv : vars.get? name with
    | none => exact ⟨name, rfl, hv, by simpa [hv, eq_comm] using h⟩
    | some value => simp [hv] at h

theorem agrees_run (runner : Command.Runner σ) (occasion : Occasion) (d : Document)
    (args : Arguments) (s : σ) :
    Agrees d (run runner occasion d args s).report (run runner occasion d args s).failure := by
  have h := tabled_runSteps runner occasion.elapsed 0 d.steps (d.vars args)
    (told runner (opening occasion d) s)
  simp only [run]
  generalize runSteps runner occasion.elapsed 0 d.steps (d.vars args)
    (told runner (opening occasion d) s) = p at h ⊢
  cases hf : p.failure with
  | some f =>
    obtain ⟨k, cause⟩ := f
    obtain ⟨before, entry, behind, hentries, rfl, hbefore, hentry, hbehind⟩ := h.divided hf
    simp only [conclude, hf, Option.map_some, Nat.zero_add]
    exact .stepFailed hentries hbefore hentry (message_ne_empty cause) hbehind rfl
  | none =>
    have herrors := h.error_eq_none hf
    cases ho : resolveOutput d.output p.vars with
    | ok output =>
      obtain ⟨hnone, hsome⟩ := resolveOutput_eq_ok ho
      simp only [conclude, hf, ho, Option.map_none]
      exact .succeeded herrors hnone hsome
    | error e =>
      obtain ⟨name, hname, hunbound, rfl⟩ := resolveOutput_eq_error ho
      simp only [conclude, hf, ho, Option.map_some]
      exact .outputMissing herrors hname hunbound rfl

/-- The first entry with an error is that of the step at which the run failed. -/
theorem Agrees.failedStep {d : Document} {r : Report} {failure : Option Failure}
    (h : Agrees d r failure) :
    match failure.bind Failure.step with
    | some k => ∃ e, r.entries[k]? = some e ∧ r.failedStep = some (k, e)
    | none => r.failedStep = none := by
  cases h with
  | succeeded herrors => exact firstFailed_eq_none 0 herrors
  | @stepFailed before behind entry cause hentries hbefore hentry =>
    refine ⟨entry, by simp [hentries], ?_⟩
    rw [Report.failedStep, hentries, firstFailed_append 0 hbefore (by simp [Entry.failed, hentry]),
      Nat.zero_add]
  | outputMissing herrors => exact firstFailed_eq_none 0 herrors

theorem Agrees.output_eq_empty {d : Document} {r : Report} {f : Failure} (h : Agrees d r (some f)) :
    r.output = "" := by
  cases h with
  | stepFailed _ _ _ _ _ houtput => exact houtput
  | outputMissing _ _ _ houtput => exact houtput

/-- A report has an entry for each step of its document, agrees with the failure of the run, and finds
the step at which the run failed. -/
theorem report_agrees_with_failure (runner : Command.Runner σ) (occasion : Occasion) (d : Document)
    (args : Arguments) (s : σ) :
    let o := run runner occasion d args s
    o.report.entries.length = d.steps.length ∧ Agrees d o.report o.failure ∧
      match o.failure.bind Failure.step with
      | some k => ∃ e, o.report.entries[k]? = some e ∧ o.report.failedStep = some (k, e)
      | none => o.report.failedStep = none := by
  intro o
  have hagrees : Agrees d o.report o.failure := agrees_run runner occasion d args s
  exact ⟨length_entries_runSteps runner _ 0 d.steps _ _, hagrees, hagrees.failedStep⟩

end CommandPipeline.Run
