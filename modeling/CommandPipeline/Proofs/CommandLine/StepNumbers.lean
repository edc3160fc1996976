import CommandPipeline.Proofs.CommandLine.Streams
import CommandPipeline.Proofs.Json.Text
import CommandPipeline.Proofs.Run.Failing

/-! The number of a step that fails, in the texts that report it. The lines of its events and the line in the
error output count steps from one. The log record of the failure counts them from zero, so that there the step
has the number that everywhere else is that of the step before it. -/
namespace CommandPipeline.CommandLine

open Display (Screen)
open Run (Outcome)

variable {σ : Type}

/-! ### Numbers in texts -/

/-- `Numbers before text n`: behind `before`, the text has the number `n`. -/
def Numbers (before text : String) (n : Nat) : Prop :=
  ∃ behind : List Char, (∀ c ∈ behind.head?, c.isDigit = false) ∧
    text.toList = before.toList ++ (Nat.toDigits 10 n ++ behind)

theorem Numbers.unique {before text : String} {m n : Nat} (hm : Numbers before text m)
    (hn : Numbers before text n) : m = n := by
  obtain ⟨behind, hbehind, htext⟩ := hm
  obtain ⟨behind', hbehind', htext'⟩ := hn
  have hdigits := Json.digits_of_whole (Json.whole_toDigits m)
  have hdigits' := Json.digits_of_whole (Json.whole_toDigits n)
  obtain ⟨heq, -⟩ := Text.append_unique (List.append_cancel_left (htext.symm.trans htext'))
    hdigits.isDigit hdigits'.isDigit hbehind hbehind'
  rw [← hdigits.value, ← hdigits'.value, heq]

/-- A text that is put together around a number has that number and no other. -/
theorem numbers_iff {before text : String} {n : Nat} (behind : String)
    (htext : text = before ++ toString n ++ behind)
    (hbehind : ∀ c ∈ behind.toList.head?, c.isDigit = false) (k : Nat) :
    Numbers before text k ↔ k = n := by
  have hn : Numbers before text n := by
    refine ⟨behind.toList, hbehind, ?_⟩
    simp only [htext, String.toList_append, Nat.toString_eq_ofList_toDigits, String.toList_ofList,
      List.append_assoc]
  exact ⟨fun hk => hk.unique hn, fun hk => hk ▸ hn⟩

/-! ### The reports of a step -/

/-- The texts that report a step which failed. -/
structure StepReports where
  /-- The line of its start. -/
  started : String
  /-- The line of its failure. -/
  failed : String
  /-- The line about it in the error output. -/
  told : String
  /-- The message of the log record of its failure. -/
  logged : String

namespace StepReports

/-- The reports of step `k`, which is of a kind and failed with a command for a reason. -/
def ofFailure (screen : Screen) (k : Nat) (kind : StepKind) (command reason : String) : StepReports where
  started := Display.eventLine screen (.stepStarted k kind)
  failed := Display.eventLine screen (.stepFailed k command reason)
  told := Display.failedStepLine k { command, error := some reason }
  logged := "Step " ++ toString k ++ " failed: " ++ reason

/-- The numbers that the texts give to their step. -/
structure Numbered (screen : Screen) (r : StepReports) (started failed told logged : Nat) : Prop where
  started : Numbers (screen.symbol .hourglass ++ " step ") r.started started
  failed : Numbers (screen.symbol .cross ++ " step ") r.failed failed
  told : Numbers "  step " r.told told
  logged : Numbers "Step " r.logged logged

/-- On the screen the step is counted from one, and in the log from zero. -/
theorem numbered_ofFailure (screen : Screen) (k : Nat) (kind : StepKind) (command reason : String)
    {started failed told logged : Nat} :
    (ofFailure screen k kind command reason).Numbered screen started failed told logged ↔
      started = k + 1 ∧ failed = k + 1 ∧ told = k + 1 ∧ logged = k := by
  let r := ofFailure screen k kind command reason
  have hstarted : ∀ n, Numbers (screen.symbol .hourglass ++ " step ") r.started n ↔ n = k + 1 :=
    numbers_iff (" (" ++ (screen.styled .dim kind.title ++ ")"))
      (by simp only [r, ofFailure, Display.eventLine, Display.stepNumber, String.append_assoc]) (by simp)
  have hfailed : ∀ n, Numbers (screen.symbol .cross ++ " step ") r.failed n ↔ n = k + 1 :=
    numbers_iff (" [" ++ (screen.styled .red command ++ ("]: " ++ screen.styled .dim reason)))
      (by simp only [r, ofFailure, Display.eventLine, Display.stepNumber, String.append_assoc]) (by simp)
  have htold : ∀ n, Numbers "  step " r.told n ↔ n = k + 1 :=
    numbers_iff (" [" ++ (command ++ ("]: " ++ reason)))
      (by simp only [r, ofFailure, Display.failedStepLine, Display.stepNumber, String.append_assoc,
        Option.getD_some]) (by simp)
  have hlogged : ∀ n, Numbers "Step " r.logged n ↔ n = k :=
    numbers_iff (" failed: " ++ reason) (by simp only [r, ofFailure, String.append_assoc]) (by simp)
  constructor
  · rintro ⟨h1, h2, h3, h4⟩
    exact ⟨(hstarted _).1 h1, (hfailed _).1 h2, (htold _).1 h3, (hlogged _).1 h4⟩
  · rintro ⟨h1, h2, h3, h4⟩
    exact ⟨(hstarted _).2 h1, (hfailed _).2 h2, (htold _).2 h3, (hlogged _).2 h4⟩

end StepReports

/-- `Reported screen d o k r`: the texts report step `k` in a run of `d` with the outcome `o`. The log record is
the one right before the event that the step failed. -/
structure Reported (screen : Screen) (d : Document) (o : Outcome σ) (k : Nat) (r : StepReports) : Prop where
  started : ∃ kind, .stepStarted k kind ∈ Run.events o.signals ∧
    r.started = Display.eventLine screen (.stepStarted k kind)
  failed : ∃ command reason, .stepFailed k command reason ∈ Run.events o.signals ∧
    r.failed = Display.eventLine screen (.stepFailed k command reason)
  told : failureLines screen d o.report = ["", failedLine screen d, r.told]
  logged : ∃ before command reason behind, o.signals = before ++
    .record ⟨.error, Log.engine, r.logged⟩ :: .event (.stepFailed k command reason) :: behind

/-! ### A whole run -/

section Failed

variable {runner : Command.Runner σ} {occasion : Run.Occasion} {d : Document} {args : Arguments} {s : σ}
  {k : Nat}

/-- A run that fails at a step reports it once in each way, with one command and for one reason. -/
theorem exists_reported (screen : Screen) (h : (Run.run runner occasion d args s).FailsAt k) :
    ∃ kind command reason, ∀ r, Reported screen d (Run.run runner occasion d args s) k r ↔
      r = .ofFailure screen k kind command reason := by
  obtain ⟨before, kind, entry, reason, behind, hsignals, hentry, herror, hstarted, hbefore, hbehind⟩ :=
    Run.signals_of_failsAt h
  have hevents : Run.events (Run.run runner occasion d args s).signals =
      Run.events before ++ .stepFailed k entry.command reason :: Run.events behind := by
    rw [hsignals, Run.events_append]
    rfl
  have htold : failureLines screen d (Run.run runner occasion d args s).report =
      ["", failedLine screen d, Display.failedStepLine k { command := entry.command, error := some reason }] := by
    simp only [failureLines, hentry, Display.failedStepLine, herror]
    rfl
  -- what is about the step is its start and its failure
  have habout : ∀ e ∈ Run.events (Run.run runner occasion d args s).signals, e.index? = some k →
      e = .stepStarted k kind ∨ e = .stepFailed k entry.command reason := by
    rw [hevents]
    intro e he hindex
    rcases List.mem_append.1 he with he | he
    · exact .inl (hbefore e he hindex)
    · rcases List.mem_cons.1 he with rfl | he
      · exact .inr rfl
      · exact absurd hindex (hbehind e he)
  refine ⟨kind, entry.command, reason, fun r => ⟨?_, ?_⟩⟩
  · obtain ⟨started, failed, line, logged⟩ := r
    rintro ⟨⟨kind', hkind, rfl⟩, ⟨command', reason', hfailed, rfl⟩, hline, ⟨front, c, m, rest, hlogged⟩⟩
    obtain rfl : kind' = kind := by simpa using habout _ hkind rfl
    obtain ⟨rfl, rfl⟩ : command' = entry.command ∧ reason' = reason := by simpa using habout _ hfailed rfl
    obtain rfl : _ = line := by simpa using htold.symm.trans hline
    have hrecord := Run.record_unique (hsignals.symm.trans hlogged)
      (fun hmem => by simpa using hbefore _ hmem rfl) fun hmem => hbehind _ hmem rfl
    obtain rfl : _ = logged := congrArg Log.Record.message hrecord
    rfl
  · rintro rfl
    refine ⟨⟨kind, ?_, rfl⟩, ⟨entry.command, reason, ?_, rfl⟩, htold, ⟨before, _, _, behind, hsignals⟩⟩
    · rw [hevents]
      exact List.mem_append_left _ hstarted
    · rw [hevents]
      exact List.mem_append_right _ List.mem_cons_self

/-- A run that fails at a step reports the step once in each way. The texts on the screen give it its number
counted from one, but the log record its number counted from zero. -/
theorem numbers_of_failed_step (screen : Screen) (h : (Run.run runner occasion d args s).FailsAt k) :
    ∃ r, (∀ r', Reported screen d (Run.run runner occasion d args s) k r' ↔ r' = r) ∧
      ∀ started failed told logged, r.Numbered screen started failed told logged ↔
        started = k + 1 ∧ failed = k + 1 ∧ told = k + 1 ∧ logged = k := by
  obtain ⟨kind, command, reason, hreported⟩ := exists_reported screen h
  exact ⟨_, hreported, fun _ _ _ _ => StepReports.numbered_ofFailure screen k kind command reason⟩

end Failed

/-! ### The first step fails -/

/-- A runner of programs that all end with code 1. -/
def failingRunner : Command.Runner Unit where
  call _ command s := ({ reply := .error (.failed command (some 1) none) }, s)

def failingDocument : Document := { name := "p", steps := [.exec "false"] }

def failingOutcome : Outcome Unit :=
  Run.run failingRunner ⟨.zero, .epoch, fun _ => .zero, .zero⟩ failingDocument ⟨[]⟩ ()

theorem failsAt_failingOutcome : failingOutcome.FailsAt 0 := rfl

theorem numbers_of_failed_step_first :
    failingOutcome.FailsAt 0 ∧
      ∃ r, (∀ r', Reported {} failingDocument failingOutcome 0 r' ↔ r' = r) ∧
        ∀ started failed told logged, r.Numbered {} started failed told logged ↔
          started = 1 ∧ failed = 1 ∧ told = 1 ∧ logged = 0 :=
  ⟨failsAt_failingOutcome, numbers_of_failed_step {} failsAt_failingOutcome⟩

/-- Where the first step fails, the log calls it step 0. -/
theorem log_numbers_from_zero :
    Reported {} failingDocument failingOutcome 0
      { started := "⏳  step 1 (exec)"
        failed := "❌  step 1 [false]: command 'false' exited with code 1"
        told := "  step 1 [false]: command 'false' exited with code 1"
        logged := "Step 0 failed: command 'false' exited with code 1" } ∧
    ¬ ∀ (runner : Command.Runner Unit) (occasion : Run.Occasion) (d : Document) (args : Arguments) (k : Nat)
        (screen : Screen), (Run.run runner occasion d args ()).FailsAt k →
        ∃ r n, Reported screen d (Run.run runner occasion d args ()) k r ∧ r.Numbered screen n n n n := by
  obtain ⟨kind, command, reason, hreported⟩ := exists_reported {} failsAt_failingOutcome
  constructor
  · have hevents : Run.events failingOutcome.signals =
        [.pipelineStarted .zero "p", .stepStarted 0 .exec,
          .stepFailed 0 "false" "command 'false' exited with code 1", .pipelineCompleted .zero false .zero] := by
      decide +kernel
    refine ⟨⟨.exec, ?_, rfl⟩, ⟨"false", "command 'false' exited with code 1", ?_, rfl⟩,
      by decide +kernel, ⟨failingOutcome.signals.take 5, "false", "command 'false' exited with code 1",
        failingOutcome.signals.drop 7, by decide +kernel⟩⟩
    · simp [hevents]
    · simp [hevents]
  · intro hall
    obtain ⟨r, n, hr, hnumbers⟩ := hall _ _ _ _ 0 {} failsAt_failingOutcome
    obtain rfl := (hreported r).1 hr
    have := (StepReports.numbered_ofFailure {} 0 kind command reason).1 hnumbers
    omega

end CommandPipeline.CommandLine
