import CommandPipeline.Proofs.Run.Recording
import CommandPipeline.Proofs.Run.Seeding
import CommandPipeline.Proofs.Run.Steps
import Mathlib.Data.List.Basic

/-! Runs that are cut in two. The run of a document is the run of its first steps and, if these succeed,
a run of the other steps that starts with the variables and the runner that the first ones left. The two
parts log other records than the whole, so that a runner stands here for its answers to calls alone. -/
namespace CommandPipeline.Run

variable {σ : Type}

/-! ### Steps behind steps -/

/-- Steps whose run has failed, with further steps that are not reached. -/
def Progress.stopped (p : Progress σ) (rest : List Step) : Progress σ :=
  { p with entries := p.entries ++ rest.map fun _ => {} }

/-- Steps whose run has succeeded, with the run of further steps. -/
def Progress.andThen (p q : Progress σ) : Progress σ :=
  { q with entries := p.entries ++ q.entries, signals := p.signals ++ q.signals }

theorem runSteps_append (runner : Command.Runner σ) (elapsed : Nat → Duration) (i : Nat)
    (before behind : List Step) (vars : Bindings) (s : σ) :
    let p := runSteps runner elapsed i before vars s
    runSteps runner elapsed i (before ++ behind) vars s =
      match p.failure with
      | some _ => p.stopped behind
      | none => p.andThen (runSteps runner elapsed (i + before.length) behind p.vars p.state) := by
  fun_induction runSteps runner elapsed i before vars s with
  | case1 i vars s => rfl
  | case2 i step rest vars s p hp entry later ih =>
    have hi : i + (step :: rest).length = i + 1 + rest.length := by
      rw [List.length_cons, Nat.add_assoc, Nat.add_comm 1]
    simp only [List.cons_append, runSteps, p] at hp ⊢
    simp only [hp]
    rw [ih, hi]
    cases hf : later.failure <;> simp [Progress.stopped, Progress.andThen, later, entry, p, hf]
  | case3 i step rest vars s p cause hp entry =>
    simp only [List.cons_append, runSteps, p] at hp ⊢
    simp only [hp]
    simp [Progress.stopped, entry, p]

/-! ### Position and time -/

/-- The runner that gives the answers of a function. It takes no notice of what is logged. -/
def answering (call : Command.Mode → String → σ → Command.Answer × σ) : Command.Runner σ := { call }

theorem told_answering (call : Command.Mode → String → σ → Command.Answer × σ)
    (signals : List Signal) (s : σ) : told (answering call) signals s = s :=
  List.foldl_fixed (records signals)

/-- The entry without its time. -/
def Entry.untimed (e : Entry) : Entry := { e with elapsed := .zero }

/-- Two runs of steps that differ in times, and in positions by `n`. -/
structure Alike (n : Nat) (p q : Progress σ) : Prop where
  vars : p.vars = q.vars
  entries : p.entries.map Entry.untimed = q.entries.map Entry.untimed
  failure : p.failure = q.failure.map fun f => (f.1 + n, f.2)
  calls : calls p.signals = calls q.signals
  state : p.state = q.state

/-- Where steps stand in a document, and how long they take, makes no difference to what they do. -/
theorem alike_runSteps (call : Command.Mode → String → σ → Command.Answer × σ)
    (elapsed elapsed' : Nat → Duration) (i n : Nat) (steps : List Step) (vars : Bindings) (s : σ) :
    Alike n (runSteps (answering call) elapsed (i + n) steps vars s)
      (runSteps (answering call) elapsed' i steps vars s) := by
  induction steps generalizing i vars s with
  | nil => exact ⟨rfl, rfl, rfl, rfl, rfl⟩
  | cons step rest ih =>
    have hbefore : ∀ k, calls (beforeStep k step) = [] := fun _ => rfl
    simp only [runSteps, told_answering]
    cases (perform (answering call) step vars s).result with
    | error cause =>
      have hafter : ∀ k entry, calls (afterFailure k entry cause) = [] := fun _ _ => rfl
      exact ⟨rfl, by simp [Entry.untimed], rfl, by simp [calls_append, hbefore, hafter], rfl⟩
    | ok _ =>
      have hafter : ∀ k entry, calls (afterSuccess k entry) = [] := fun _ _ => rfl
      have hi : i + n + 1 = i + 1 + n := Nat.add_right_comm i n 1
      have h := ih (i + 1) (perform (answering call) step vars s).vars
        (perform (answering call) step vars s).state
      rw [hi]
      exact ⟨h.vars, by simp [Entry.untimed, h.entries], h.failure,
        by simp [calls_append, hbefore, hafter, h.calls], h.state⟩

namespace Alike

variable {m n : Nat} {p p' q q' : Progress σ}

theorem refl (p : Progress σ) : Alike 0 p p := ⟨rfl, rfl, by simp, rfl, rfl⟩

theorem stopped (h : Alike n p q) (rest : List Step) : Alike n (p.stopped rest) (q.stopped rest) :=
  ⟨h.vars, by simp [Progress.stopped, h.entries], h.failure, h.calls, h.state⟩

theorem andThen (hp : Alike m p p') (hq : Alike n q q') : Alike n (p.andThen q) (p'.andThen q') :=
  ⟨hq.vars, by simp [Progress.andThen, hp.entries, hq.entries], hq.failure,
    by simp [Progress.andThen, calls_append, hp.calls, hq.calls], hq.state⟩

end Alike

/-- Up to times and positions, a run of steps that are cut in two is put together from runs of the parts. -/
theorem alike_append (call : Command.Mode → String → σ → Command.Answer × σ)
    (elapsed elapsed₁ elapsed₂ : Nat → Duration) (before behind : List Step) (vars : Bindings) (s : σ) :
    let p := runSteps (answering call) elapsed 0 (before ++ behind) vars s
    let p₁ := runSteps (answering call) elapsed₁ 0 before vars s
    match p₁.failure with
    | some _ => ∃ p', Alike 0 p' p₁ ∧ p = p'.stopped behind
    | none => Alike before.length p
        (p₁.andThen (runSteps (answering call) elapsed₂ 0 behind p₁.vars p₁.state)) := by
  intro p p₁
  have hp : p = _ := runSteps_append (answering call) elapsed 0 before behind vars s
  have h : Alike 0 (runSteps (answering call) elapsed 0 before vars s) p₁ :=
    alike_runSteps call elapsed elapsed₁ 0 0 before vars s
  have hfailure := h.failure
  cases hf : p₁.failure with
  | some f =>
    rw [hf, Option.map_some] at hfailure
    rw [hfailure] at hp
    exact ⟨_, h, hp⟩
  | none =>
    rw [hf, Option.map_none] at hfailure
    rw [hp, hfailure, ← h.vars, ← h.state]
    exact h.andThen (alike_runSteps call elapsed elapsed₂ 0 before.length behind _ _)

/-! ### Documents -/

/-- How a run of `d` ends after the progress `p`, if its times and, by `n`, its positions are left out of
account. -/
structure Outcome.Shows (o : Outcome σ) (d : Document) (n : Nat) (p : Progress σ) : Prop where
  calls : calls o.signals = calls p.signals
  state : o.state = p.state
  vars : o.report.vars = p.vars
  entries : o.report.entries.map Entry.untimed = p.entries.map Entry.untimed
  output : o.report.output = (conclude d p).output
  failure : o.failure = (conclude d p).failure.map fun f => ⟨d.name, f.1.map (· + n), f.2⟩

theorem shows_run {call : Command.Mode → String → σ → Command.Answer × σ} {occasion : Occasion}
    {d : Document} {args : Arguments} {s : σ} {n : Nat} {p : Progress σ}
    (h : Alike n (runSteps (answering call) occasion.elapsed 0 d.steps (d.vars args) s) p) :
    (run (answering call) occasion d args s).Shows d n p := by
  simp only [run, told_answering]
  generalize runSteps (answering call) occasion.elapsed 0 d.steps (d.vars args) s = q at h ⊢
  have hopening : Run.calls (opening occasion d) = [] := rfl
  have hclosing : ∀ success, Run.calls (closing occasion success) = [] := fun _ => rfl
  have hconclude : Run.calls (conclude d q).signals = [] := calls_of_seen (t := []) (seen_conclude d q)
  refine ⟨?_, h.state, h.vars, h.entries, ?_, ?_⟩
  · simp [calls_append, hopening, hclosing, hconclude, h.calls]
  · simp only [conclude, h.failure, h.vars]
    cases p.failure with
    | some f => rfl
    | none => cases resolveOutput d.output p.vars <;> rfl
  · simp only [conclude, h.failure, h.vars]
    cases p.failure with
    | some f => rfl
    | none => cases resolveOutput d.output p.vars <;> rfl

/-- The run `o` fails where the run `o₁` of its first steps does, and `unreached` others are left. -/
structure Outcome.StopsWith (o o₁ : Outcome σ) (unreached : Nat) : Prop where
  calls : calls o.signals = calls o₁.signals
  state : o.state = o₁.state
  vars : o.report.vars = o₁.report.vars
  entries : ∃ reached, o.report.entries = reached ++ List.replicate unreached default ∧
    reached.map Entry.untimed = o₁.report.entries.map Entry.untimed
  output : o.report.output = ""
  failure : o.failure = o₁.failure

/-- The run `o` goes on as `o₂` behind the run `o₁` of its first `n` steps. -/
structure Outcome.GoesOn (o o₁ o₂ : Outcome σ) (n : Nat) : Prop where
  calls : calls o.signals = calls o₁.signals ++ calls o₂.signals
  state : o.state = o₂.state
  vars : o.report.vars = o₂.report.vars
  entries : o.report.entries.map Entry.untimed =
    o₁.report.entries.map Entry.untimed ++ o₂.report.entries.map Entry.untimed
  output : o.report.output = o₂.report.output
  failure : o.failure = o₂.failure.map fun f => { f with step := f.step.map (· + n) }

namespace Outcome.Shows

variable {o o₁ o₂ : Outcome σ} {d d₁ d₂ : Document} {p p' q : Progress σ}

theorem stopsWith {f : Nat × RunError} {rest : List Step} (h : o.Shows d 0 (p.stopped rest))
    (h₁ : o₁.Shows d₁ 0 p) (hname : d.name = d₁.name) (hf : p.failure = some f)
    (hentries : o.report.entries = (p'.stopped rest).entries) (hp : Alike 0 p' p) :
    o.StopsWith o₁ rest.length where
  calls := h.calls.trans h₁.calls.symm
  state := h.state.trans h₁.state.symm
  vars := h.vars.trans h₁.vars.symm
  entries := ⟨p'.entries, by rw [hentries, Progress.stopped, List.map_const']; rfl,
    hp.entries.trans h₁.entries.symm⟩
  output := by simp [h.output, conclude, Progress.stopped, hf]
  failure := by simp [h.failure, h₁.failure, conclude, Progress.stopped, hf, hname]

theorem goesOn {n : Nat} (h : o.Shows d n (p.andThen q)) (h₁ : o₁.Shows d₁ 0 p)
    (h₂ : o₂.Shows d₂ 0 q) (hname : d.name = d₂.name) (houtput : d.output = d₂.output) :
    o.GoesOn o₁ o₂ n := by
  have hconclude : conclude d (p.andThen q) = conclude d₂ q := by
    simp only [conclude, Progress.andThen, houtput]
  refine ⟨?_, h.state.trans h₂.state.symm, h.vars.trans h₂.vars.symm, ?_, ?_, ?_⟩
  · rw [h.calls, h₁.calls, h₂.calls]
    exact calls_append _ _
  · rw [h.entries, h₁.entries, h₂.entries]
    exact List.map_append
  · rw [h.output, h₂.output, hconclude]
  · rw [h.failure, h₂.failure, hconclude, hname, Option.map_map]
    congr
    funext f
    simp

end Outcome.Shows

/-- A run of a document whose steps are cut in two fails where the run of the first steps does, and leaves
default entries for the others. If the first steps succeed, it goes on as the run of a document without
inputs that declares the variables which they left, with the other steps and the output of the whole. -/
theorem run_append (call : Command.Mode → String → σ → Command.Answer × σ)
    (occasion occasion₁ occasion₂ : Occasion) (d : Document) (before behind : List Step)
    (args : Arguments) (s : σ) :
    let o := run (answering call) occasion { d with steps := before ++ behind } args s
    let o₁ := run (answering call) occasion₁ { d with steps := before, output := none } args s
    match o₁.failure with
    | some f => (∃ k < before.length, f.step = some k) ∧ o.StopsWith o₁ behind.length
    | none => o.GoesOn o₁ (run (answering call) occasion₂
        { d with inputs := [], declarations := o₁.report.vars, steps := behind } ⟨[]⟩ o₁.state)
        before.length := by
  intro o o₁
  let p₁ := runSteps (answering call) occasion₁.elapsed 0 before (d.vars args) s
  have h₁ : o₁.Shows { d with steps := before, output := none } 0 p₁ := shows_run (.refl p₁)
  have happend : match p₁.failure with
      | some _ => ∃ p', Alike 0 p' p₁ ∧ _ = p'.stopped behind
      | none => Alike before.length _ (p₁.andThen _) :=
    alike_append call occasion.elapsed occasion₁.elapsed occasion₂.elapsed before behind (d.vars args) s
  cases hf : p₁.failure with
  | some f =>
    rw [hf] at happend
    have hf₁ : o₁.failure = some ⟨d.name, some f.1, f.2⟩ := by simp [h₁.failure, conclude, hf]
    have hlength : p₁.entries.length = before.length := length_entries_runSteps _ _ 0 before _ s
    have hlt : f.1 < 0 + p₁.entries.length := ((tabled_runSteps _ _ 0 before _ s).le hf).2
    obtain ⟨p', hp', hwhole⟩ := happend
    have h : o.Shows { d with steps := before ++ behind } 0 (p₁.stopped behind) :=
      shows_run (hwhole ▸ hp'.stopped behind)
    have hentries : o.report.entries = (p'.stopped behind).entries := by
      rw [← hwhole, ← told_answering call (opening occasion { d with steps := before ++ behind }) s]
      rfl
    rw [hf₁]
    exact ⟨⟨f.1, by omega, rfl⟩, h.stopsWith h₁ rfl hf hentries hp'⟩
  | none =>
    rw [hf] at happend
    have hf₁ : o₁.failure = none := by simp [h₁.failure, conclude, hf, resolveOutput]
    let p₂ := runSteps (answering call) occasion₂.elapsed 0 behind p₁.vars p₁.state
    let d₂ : Document := { d with inputs := [], declarations := o₁.report.vars, steps := behind }
    have hvars : d₂.vars ⟨[]⟩ = p₁.vars := (Document.vars_of_inputs_eq_nil _ rfl).trans h₁.vars
    have h₂ : (run (answering call) occasion₂ d₂ ⟨[]⟩ o₁.state).Shows d₂ 0 p₂ :=
      shows_run (by rw [hvars, h₁.state]; exact .refl p₂)
    have h : o.Shows { d with steps := before ++ behind } before.length (p₁.andThen p₂) :=
      shows_run happend
    rw [hf₁]
    exact h.goesOn h₁ h₂ rfl rfl

end CommandPipeline.Run
