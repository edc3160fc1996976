import CommandPipeline.Command.Subprocess
import CommandPipeline.Proofs.Interpolation.Boundary
import CommandPipeline.Proofs.Language.Written
import CommandPipeline.Proofs.Run.Scope
import Mathlib

/-! Commands that consist of blanks, for which a runner that starts programs has nothing to start. As long
as every value has a character that is not blank, a command is blank once its variables are replaced exactly
if it was written so, and a run fails for an empty command exactly if it comes to a step with such a
command. The language takes a command of blanks, but none without a character. -/
namespace CommandPipeline

open CommandPipeline.Language (Blanks)

/-! ### Replacing variables -/

theorem not_blanks_cons {c : Char} (h : Text.isBlank c = false) (cs : List Char) : ¬ Blanks (c :: cs) := by
  intro hblanks
  rw [hblanks c List.mem_cons_self] at h
  contradiction

theorem blanks_flatMap_iff {α : Type} {f : α → List Char} {l : List α} :
    Blanks (l.flatMap f) ↔ ∀ a ∈ l, Blanks (f a) := by
  simp only [Blanks, List.mem_flatMap]
  exact ⟨fun h a ha c hc => h c ⟨a, ha, hc⟩, fun h c ⟨a, ha, hc⟩ => h a ha c hc⟩

/-- No value of a variable is blank. -/
def Bindings.Solid (b : Bindings) : Prop :=
  ∀ name value, b.get? name = some value → ¬ Blanks value.toList

/-- A variable is written with a dollar sign and stands for a value, so that it is blank neither way. -/
theorem Bindings.Solid.blanks_render_iff {b : Bindings} (h : b.Solid) {cs : List Char} {ts : List Token}
    (hs : Scan b.nameTexts cs ts) {t : Token} (ht : t ∈ ts) :
    Blanks (t.render b) ↔ Blanks t.spelling := by
  cases t with
  | literal c => rfl
  | var name =>
    obtain ⟨value, hvalue, hrender⟩ := Bindings.render_var (hs.mem_of_var ht)
    rw [hrender]
    exact iff_of_false (h _ value hvalue) (not_blanks_cons (by decide) name)

theorem Bindings.Solid.blanks_interpolate_iff {b : Bindings} (h : b.Solid) (command : String) :
    Blanks (b.interpolate command).toList ↔ Blanks command.toList := by
  have hs := b.scan_tokens command.toList
  rw [toList_interpolate, interpolateText_of_scan hs, blanks_flatMap_iff]
  conv_rhs => rw [← hs.spelling, blanks_flatMap_iff]
  exact forall₂_congr fun t ht => h.blanks_render_iff hs ht

/-- The language takes a command only with a character. -/
theorem Language.WritableStep.command_ne_empty {step : Step} (h : WritableStep step) {command : String}
    (hcommand : step.command? = some command) : command ≠ "" := by
  cases step with
  | assign target source => contradiction
  | capture target text =>
    obtain rfl : text = command := Option.some.inj hcommand
    exact h.2.1
  | exec text =>
    obtain rfl : text = command := Option.some.inj hcommand
    exact h.1

namespace Run

variable {σ : Type}

/-! ### Runners -/

/-- A program that was started did not come from an empty command, however it ended. -/
theorem reply_judge_ne_empty (mode : Command.Mode) (command : String) (c : Command.Completion) :
    (Command.judge mode command c).reply ≠ .error .empty := by
  unfold Command.judge
  split
  · cases mode with
    | plain => simp
    | captured =>
      simp only
      split <;> simp
  · simp

/-- A runner that finds a command empty exactly if it is blank. -/
def FindsEmpty (runner : Command.Runner σ) : Prop :=
  ∀ mode command s, (runner.call mode command s).1.reply = .error .empty ↔ Blanks command.toList

/-- The runner that starts programs cuts a command into words, and a blank command has none. -/
theorem findsEmpty_subprocess (launch : Command.Launcher σ) (hear : Log.Record → σ → σ) :
    FindsEmpty (Command.subprocess launch hear) := by
  intro mode command s
  have hwords : (Text.words command.toList).map String.ofList = [] ↔ Blanks command.toList := by
    rw [List.map_eq_nil_iff]
    exact Text.words_eq_nil_iff
  rw [← hwords]
  simp only [Command.subprocess, Command.runWith]
  split
  · rename_i hnil
    simp [hnil]
  · rename_i program arguments hcons
    simp only [hcons, List.cons_ne_nil, iff_false]
    split
    · simp
    · exact reply_judge_ne_empty mode command _

/-! ### One step -/

theorem keep_ne_command (vars : Bindings) (target value : String) (e : Command.CommandError) :
    (keep vars target value).1 ≠ .error (.command e) := by
  show (vars.store target value).1.mapError RunError.undeclared ≠ _
  cases (vars.store target value).1 <;> simp [Except.mapError]

/-- Only a blank command is empty, and nothing else about its step makes it fail so. -/
theorem perform_empty_iff {runner : Command.Runner σ} (hrunner : FindsEmpty runner) (step : Step)
    (vars : Bindings) (s : σ) :
    (perform runner step vars s).outcome = .error (.command .empty) ↔
      ∃ command, step.command? = some command ∧ Blanks (vars.interpolate command).toList := by
  rw [Performed.outcome_eq_error_iff]
  cases step with
  | assign target source =>
    simp only [perform, performAssign, Step.command?, reduceCtorEq, false_and, exists_false, iff_false]
    split
    · simp
    · exact keep_ne_command vars target _ .empty
  | capture target command =>
    have hempty := hrunner .captured (vars.interpolate command) s
    simp only [perform, performCapture, Step.command?, Option.some.injEq, exists_eq_left', ← hempty]
    split
    · rename_i e hreply
      simp [hreply]
    · rename_i text hreply
      simp [hreply, keep_ne_command]
  | exec command =>
    have hempty := hrunner .plain (vars.interpolate command) s
    simp only [perform, performExec, Step.command?, Option.some.injEq, exists_eq_left', ← hempty]
    split <;> rename_i hreply <;> simp [hreply]

/-- Where no value is blank, the command as it was written decides. -/
theorem perform_empty_iff_of_solid {runner : Command.Runner σ} (hrunner : FindsEmpty runner) {step : Step}
    (hstep : Language.WritableStep step) {vars : Bindings} (hsolid : vars.Solid) (s : σ) :
    (perform runner step vars s).outcome = .error (.command .empty) ↔
      ∃ command, step.command? = some command ∧ command ≠ "" ∧ Blanks command.toList := by
  rw [perform_empty_iff hrunner]
  refine exists_congr fun command => and_congr_right fun hcommand => ?_
  rw [hsolid.blanks_interpolate_iff]
  exact (and_iff_right (hstep.command_ne_empty hcommand)).symm

/-! ### A whole run -/

section Whole

variable {runner : Command.Runner σ} {occasion : Occasion} {d : Document} {args : Arguments} {s : σ}

/-- A run fails for an empty command exactly if it comes to a step that performs so. -/
theorem failure_empty_iff :
    (∃ f, (run runner occasion d args s).failure = some f ∧ f.cause = .command .empty) ↔
      ∃ p step, Reaches runner occasion.elapsed d.steps (.start runner occasion d args s) p ∧
        d.steps[p.index]? = some step ∧ (p.perform runner step).outcome = .error (.command .empty) := by
  constructor
  · rintro ⟨f, hf, hcause⟩
    obtain ⟨last, hlast, hcloses⟩ := exists_closes runner occasion d args s
    rw [hf] at hcloses
    cases hcloses with
    | stepFailed hnext hfails =>
      cases hcause
      exact ⟨last, _, hlast, hnext, hfails⟩
    | outputMissing => contradiction
  · rintro ⟨p, step, hp, hnext, hfails⟩
    exact ⟨_, (run_of_failed hp hnext hfails).1, rfl⟩

/-- Without a step that stores, the variables keep their values. -/
theorem get?_of_reaches_of_untargeted {elapsed : Nat → Duration} {steps : List Step} {start q : Point σ}
    (hsteps : ∀ step ∈ steps, step.target? = none) (hq : Reaches runner elapsed steps start q)
    (name : String) : q.vars.get? name = start.vars.get? name := by
  rcases get?_of_reaches hq name with ⟨-, hkept⟩ | ⟨value, ⟨_, step, _, _, hstep, _, htarget, _, _⟩, _⟩
  · exact hkept
  · rw [hsteps step (List.mem_of_getElem? hstep.next)] at htarget
    contradiction

/-- As long as every value has a character that is not blank, a run of a document that was read fails for
an empty command exactly if it comes to a step whose command was written with blanks alone. -/
theorem empty_command_of_run {tokens : Language.TokenSource} {source : String}
    (hparse : Language.parse tokens source = .ok d) (hrunner : FindsEmpty runner)
    (hvalues : ∀ p, Reaches runner occasion.elapsed d.steps (.start runner occasion d args s) p →
      p.vars.Solid) :
    (∃ f, (run runner occasion d args s).failure = some f ∧ f.cause = .command .empty) ↔
      ∃ p step command, Reaches runner occasion.elapsed d.steps (.start runner occasion d args s) p ∧
        d.steps[p.index]? = some step ∧ step.command? = some command ∧
          command ≠ "" ∧ Blanks command.toList := by
  have hwritable := Language.writable_of_parse hparse
  have hstep : ∀ p step, Reaches runner occasion.elapsed d.steps (.start runner occasion d args s) p →
      d.steps[p.index]? = some step →
      ((p.perform runner step).outcome = .error (.command .empty) ↔
        ∃ command, step.command? = some command ∧ command ≠ "" ∧ Blanks command.toList) :=
    fun p step hp hnext => perform_empty_iff_of_solid hrunner
      (hwritable.steps step (List.mem_of_getElem? hnext)) (hvalues p hp) _
  rw [failure_empty_iff]
  constructor
  · rintro ⟨p, step, hp, hnext, hfails⟩
    obtain ⟨command, hcommand⟩ := (hstep p step hp hnext).1 hfails
    exact ⟨p, step, command, hp, hnext, hcommand⟩
  · rintro ⟨p, step, command, hp, hnext, hcommand⟩
    exact ⟨p, step, hp, hnext, (hstep p step hp hnext).2 ⟨command, hcommand⟩⟩

end Whole

theorem empty_command_of_run_space :
    let tokens : Language.TokenSource := { letter := fun _ _ => 0 }
    let source := "pipeline p\nread a\nbegin\n( )\n($a)\nend\n"
    let runner : Command.Runner Unit := Command.subprocess fun _ _ s => (.ok { ending := .exited 0 }, s)
    let occasion : Occasion := ⟨.zero, ⟨"1970-01-01T00:00:00Z", by decide⟩, fun _ => .zero, .zero⟩
    ∃ d : Document, Language.parse tokens source = .ok d ∧ FindsEmpty runner ∧
      (∀ p, Reaches runner occasion.elapsed d.steps (.start runner occasion d ⟨["x"]⟩ ()) p →
        p.vars.Solid) ∧
      ∃ f, (run runner occasion d ⟨["x"]⟩ ()).failure = some f ∧ f.cause = .command .empty := by
  intro tokens source runner occasion
  let d : Document := {
    name := "p"
    inputs := [⟨"a", ""⟩]
    steps := [.exec " ", .exec "$a"] }
  have hparse : Language.parse tokens source = .ok d :=
    (Language.parse_eq_ok_iff _ _ _).2 ⟨⟨_, 0⟩, by cbv, rfl⟩
  have hrunner : FindsEmpty runner := findsEmpty_subprocess _ _
  have hvalues : ∀ p, Reaches runner occasion.elapsed d.steps (.start runner occasion d ⟨["x"]⟩ ()) p →
      p.vars.Solid := by
    intro p hp name value hvalue
    rw [get?_of_reaches_of_untargeted (by decide) hp] at hvalue
    obtain ⟨-, rfl⟩ := Prod.mk.inj (List.mem_singleton.1 (Bindings.mem_of_valueOf hvalue))
    exact not_blanks_cons (by decide) []
  exact ⟨d, hparse, hrunner, hvalues, (empty_command_of_run hparse hrunner hvalues).2
    ⟨_, .exec " ", " ", .refl, rfl, rfl, by decide, Language.blanks_space⟩⟩

/-- No value is blank where there is none, and yet a run of such a document fails for an empty command. -/
theorem empty_command_without_blank_value :
    ¬ ∀ (tokens : Language.TokenSource) (source : String) (d : Document) (runner : Command.Runner Unit)
        (occasion : Occasion) (args : Arguments) (s : Unit),
      Language.parse tokens source = .ok d → FindsEmpty runner →
      (∀ p, Reaches runner occasion.elapsed d.steps (.start runner occasion d args s) p →
        p.vars.Solid) →
      ¬ ∃ f, (run runner occasion d args s).failure = some f ∧ f.cause = .command .empty := by
  intro h
  let runner : Command.Runner Unit := Command.subprocess fun _ _ s => (.ok { ending := .exited 0 }, s)
  let occasion : Occasion := ⟨.zero, ⟨"1970-01-01T00:00:00Z", by decide⟩, fun _ => .zero, .zero⟩
  let d : Document := { name := "p", steps := [.exec " "] }
  have hparse : Language.parse { letter := fun _ _ => 0 } "pipeline p\nbegin\n( )\nend\n" = .ok d :=
    (Language.parse_eq_ok_iff _ _ _).2 ⟨⟨_, 0⟩, by cbv, rfl⟩
  have hrunner : FindsEmpty runner := findsEmpty_subprocess _ _
  have hvalues : ∀ p, Reaches runner occasion.elapsed d.steps (.start runner occasion d ⟨[]⟩ ()) p →
      p.vars.Solid := by
    intro p hp name value hvalue
    rw [get?_of_reaches_of_untargeted (by decide) hp] at hvalue
    exact absurd (Bindings.mem_of_valueOf hvalue) List.not_mem_nil
  have hsolid : (d.vars ⟨[]⟩).Solid := hvalues _ .refl
  have hblanks : Blanks ((d.vars ⟨[]⟩).interpolate " ").toList := by
    rw [hsolid.blanks_interpolate_iff]
    exact Language.blanks_space
  refine h _ _ d runner occasion ⟨[]⟩ () hparse hrunner hvalues ?_
  exact failure_empty_iff.2
    ⟨_, .exec " ", .refl, rfl, (perform_empty_iff hrunner _ _ _).2 ⟨" ", rfl, hblanks⟩⟩

end Run

end CommandPipeline
