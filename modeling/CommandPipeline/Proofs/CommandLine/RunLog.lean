import CommandPipeline.CommandLine.Program
import CommandPipeline.Proofs.Log.Lines
import CommandPipeline.Proofs.Platform.Appending
import CommandPipeline.Proofs.Run.Recorded
import CommandPipeline.Proofs.Text.Utf8

/-! Runs that are logged to one file, one after another. Each run opens the file anew and adds its records,
so that the file has a line for each record that it takes, in the order of the runs and behind what it held
before. How much the log takes of a run does not act on the run. -/
namespace CommandPipeline.CommandLine

open Platform (Files Path Growing LogHolds)

variable {σ : Type} {here place : Path} {path : String} {old : List UInt8}

/-! ### Jobs -/

/-- A run that is logged to a file. -/
structure Job (σ : Type) where
  runner : Command.Runner (Scene σ)
  occasion : Run.Occasion
  document : Document
  arguments : Arguments
  verbose : Bool
  /-- The times of the records, in their order. -/
  time : Nat → String

/-- What a run works on when it starts. -/
def Scene.start (w : Files × σ) : Scene σ := { files := w.1, own := w.2 }

namespace Job

/-- The runner of a job, with the log at `place`. -/
def logged (job : Job σ) (place : Path) : Command.Runner (Scene σ) :=
  { job.runner with hear := logTo (some place) job.verbose job.time }

def outcome (job : Job σ) (place : Path) (w : Files × σ) : Run.Outcome (Scene σ) :=
  Run.run (job.logged place) job.occasion job.document job.arguments (.start w)

/-- The records of a job with this outcome, with their times. -/
def entries (job : Job σ) (o : Run.Outcome (Scene σ)) : List Log.Entry :=
  Log.stamped job.time 0 (Run.records o.signals)

/-- What a job with this outcome adds to its log. -/
def text (job : Job σ) (o : Run.Outcome (Scene σ)) : List UInt8 :=
  Text.utf8 (Log.fileText job.verbose (job.entries o))

/-- `job.Logs o bytes`: the bytes are the lines of the records of a job with the outcome `o`. -/
def Logs (job : Job σ) (o : Run.Outcome (Scene σ)) (bytes : List UInt8) : Prop :=
  ∃ texts, List.Forall₂ (Log.Written job.verbose) (job.entries o) texts ∧
    bytes = (String.join texts).toUTF8.data.toList

theorem logs_iff {job : Job σ} {o : Run.Outcome (Scene σ)} {bytes : List UInt8} :
    job.Logs o bytes ↔ bytes = job.text o := by
  constructor
  · rintro ⟨texts, hwritten, rfl⟩
    rw [text, ← Log.exists_written_iff.1 ⟨texts, hwritten, rfl⟩]
    rfl
  · rintro rfl
    obtain ⟨texts, hwritten, hjoin⟩ := Log.exists_written_iff.2 (Eq.refl (Log.fileText job.verbose (job.entries o)))
    exact ⟨texts, hwritten, by rw [text, hjoin]; rfl⟩

end Job

/-- A run of the program with a log file is a job. -/
theorem files_runBound (h : Host σ) (verbose : Bool) (r : RunRequest) (d : Document) (args : Arguments)
    (before : List Log.Record) (place : Path) (files : Files) (s : σ) :
    let job : Job σ :=
      ⟨h.runner (logTo (some place) verbose h.runTime), h.occasion, d, args, verbose, h.runTime⟩
    (runBound h verbose r d args before (some place) files s).files =
      (job.outcome place (files, s)).state.files :=
  rfl

/-- Runs jobs one after another, each logged to the file that it opens at `path`. -/
def runJobs (here : Path) (path : String) :
    List (Job σ) → Files × σ → Except Platform.FileError (List (Run.Outcome (Scene σ)) × Files × σ)
  | [], w => .ok ([], w)
  | job :: rest, w => do
    let (place, files) ← Platform.openLog w.1 here path
    let o := job.outcome place (files, w.2)
    let (outcomes, last) ← runJobs here path rest (o.state.files, o.state.own)
    .ok (o :: outcomes, last)

/-! ### One job -/

/-- The runner of a job logs nothing itself and leaves the log alone. -/
structure Job.Discreet (job : Job σ) (here : Path) (path : String) (place : Path) : Prop where
  silent : Run.Silent job.runner
  leaves : ∀ mode command w bytes, Growing w.files here path place bytes →
    Growing (job.runner.call mode command w).2.files here path place bytes
  uncounted : ∀ mode command w, (job.runner.call mode command w).2.logged = w.logged

/-- The log of a run that has made these records, behind what it held before. -/
structure Grown (job : Job σ) (here : Path) (path : String) (place : Path) (old : List UInt8)
    (records : List Log.Record) (w : Scene σ) : Prop where
  logged : w.logged = records.length
  growing : Growing w.files here path place
    (old ++ Text.utf8 (Log.fileText job.verbose (Log.stamped job.time 0 records)))

/-- A record that is made gets the next time, and its line stands behind all others. -/
theorem Grown.logTo {job : Job σ} {records : List Log.Record} {w : Scene σ}
    (h : Grown job here path place old records w) (r : Log.Record) :
    Grown job here path place old (records ++ [r]) (logTo (some place) job.verbose job.time r w) where
  logged := by
    rw [List.length_append, ← h.logged]
    rfl
  growing := by
    have hstamped : Log.stamped job.time 0 (records ++ [r]) =
        Log.stamped job.time 0 records ++ [⟨job.time w.logged, r⟩] := by
      rw [Log.stamped_append, Nat.zero_add, ← h.logged]
      rfl
    rw [hstamped, Log.fileText_append, Text.utf8_append, ← List.append_assoc]
    exact h.growing.append _

namespace Job.Discreet

variable {job : Job σ}

theorem logged_silent (h : job.Discreet here path place) : Run.Silent (job.logged place) := h.silent

/-- The log goes with the signals of a job: it holds what it takes of the records so far. -/
theorem accompanies (h : job.Discreet here path place) (old : List UInt8) :
    Run.Accompanies (job.logged place) fun past w =>
      Grown job here path place old (Run.records past) w where
  event := by
    intro past w e hw
    have hevent : Run.records [.event e] = [] := rfl
    rw [Run.records_append, hevent, List.append_nil]
    exact hw
  record := by
    intro past w r hw
    rw [Run.records_append]
    exact hw.logTo r
  call := by
    intro past w mode command hw
    have hcall : Run.records (Run.callSignals mode command ((job.logged place).call mode command w).1) = [] :=
      (Run.records_callSignals _ _ _).trans (h.logged_silent _ _ _)
    rw [Run.records_append, hcall, List.append_nil]
    exact ⟨(h.uncounted mode command w).trans hw.logged, h.leaves mode command w _ hw.growing⟩

/-- A job adds its records to its log. -/
theorem growing_outcome (h : job.Discreet here path place) {w : Files × σ}
    (hw : Growing w.1 here path place old) :
    Growing (job.outcome place w).state.files here path place (old ++ job.text (job.outcome place w)) := by
  have hstart : Grown job here path place old (Run.records []) (.start w) := by
    have hnothing : Text.utf8 (Log.fileText job.verbose (Log.stamped job.time 0 (Run.records []))) = [] := by
      simp [Run.records, Log.stamped, Log.fileText, Text.utf8]
    refine ⟨rfl, ?_⟩
    rw [hnothing, List.append_nil]
    exact hw
  exact ((h.accompanies old).run job.occasion job.document job.arguments hstart).growing

end Job.Discreet

/-- The records of a job with this outcome mirror its run. -/
def Job.Mirrors (place : Path) (job : Job σ) (o : Run.Outcome (Scene σ)) : Prop :=
  ∃ w points, o = job.outcome place w ∧
    Run.Mirrored (job.logged place) job.occasion job.document
      ⟨0, job.document.vars job.arguments,
        Run.told (job.logged place) (Run.opening job.occasion job.document) (.start w)⟩ o points

/-! ### All jobs -/

theorem runJobs_cons {job : Job σ} {rest : List (Job σ)} {w last : Files × σ} {files : Files}
    {outcomes : List (Run.Outcome (Scene σ))}
    (hlog : Platform.openLog w.1 here path = .ok (place, files))
    (hrest : let o := job.outcome place (files, w.2)
      runJobs here path rest (o.state.files, o.state.own) = .ok (outcomes, last)) :
    runJobs here path (job :: rest) w = .ok (job.outcome place (files, w.2) :: outcomes, last) := by
  simp only [runJobs, hlog, bind, Except.bind, hrest]

/-- All runs are made, and the log holds the lines of their records behind what it held. -/
theorem exists_runJobs {jobs : List (Job σ)} (hjobs : ∀ job ∈ jobs, job.Discreet here path place)
    {w : Files × σ} (hw : LogHolds w.1 here path place old) :
    ∃ outcomes last parts, runJobs here path jobs w = .ok (outcomes, last) ∧
      List.Forall₂ (fun e bytes => e.1.Logs e.2 bytes) (jobs.zip outcomes) parts ∧
      LogHolds last.1 here path place (old ++ parts.flatten) ∧
      List.Forall₂ (Job.Mirrors place) jobs outcomes := by
  induction jobs generalizing w old with
  | nil => exact ⟨[], w, [], rfl, .nil, by simpa using hw, .nil⟩
  | cons job rest ih =>
    obtain ⟨files, hlog, hgrowing⟩ := hw.growing
    have hjob : job.Discreet here path place := hjobs job (by simp)
    let o := job.outcome place (files, w.2)
    have hgrown : Growing o.state.files here path place (old ++ job.text o) := hjob.growing_outcome hgrowing
    obtain ⟨outcomes, last, parts, hrest, hlogs, hholds, hmirrors⟩ :=
      ih (fun job hjob => hjobs job (by simp [hjob])) (w := (o.state.files, o.state.own)) hgrown.logHolds
    obtain ⟨points, hpoints⟩ := Run.exists_mirrored hjob.logged_silent job.occasion job.document
      job.arguments (.start (files, w.2))
    rw [List.append_assoc] at hholds
    exact ⟨o :: outcomes, last, job.text o :: parts, runJobs_cons hlog hrest, .cons (Job.logs_iff.2 rfl) hlogs,
      hholds, .cons ⟨_, points, rfl, hpoints⟩ hmirrors⟩

/-! ### How much a log takes -/

/-- Scenes that differ in what stands at one place at most. -/
structure AlikeBut (place : Path) (w w' : Scene σ) : Prop where
  nodes : ∀ other, other ≠ place → w.files.node? other = w'.files.node? other
  logged : w.logged = w'.logged
  own : w.own = w'.own

/-- The runner of a job does not look at the log. -/
def Job.Unaware (place : Path) (job : Job σ) : Prop :=
  ∀ mode command w w', AlikeBut place w w' →
    (job.runner.call mode command w).1 = (job.runner.call mode command w').1 ∧
    AlikeBut place (job.runner.call mode command w).2 (job.runner.call mode command w').2

/-- The same job, but for how much its log takes. -/
def Job.Retaken (job other : Job σ) : Prop := ∃ verbose, other = { job with verbose }

/-- Runs that show the same. -/
structure ShowAlike (o o' : Run.Outcome (Scene σ)) : Prop where
  report : o'.report = o.report
  failure : o'.failure = o.failure
  signals : o'.signals = o.signals

theorem Job.Unaware.matches {job : Job σ} (h : job.Unaware place) (verbose : Bool) :
    Run.Matches (job.logged place) (({ job with verbose } : Job σ).logged place) (AlikeBut place) where
  answer mode command hw := (h mode command _ _ hw).1
  call mode command hw := (h mode command _ _ hw).2
  hear := by
    intro w w' r hw
    refine ⟨fun other hother => ?_, congrArg (· + 1) hw.logged, hw.own⟩
    simp only [Job.logged, logTo, Platform.node?_append _ hother]
    exact hw.nodes other hother

/-- Opening the log changes nothing but the log. -/
theorem AlikeBut.openLog {w w' : Files × σ} {files files' : Files} (hw : AlikeBut place (.start w) (.start w'))
    (hlog : Platform.openLog w.1 here path = .ok (place, files))
    (hlog' : Platform.openLog w'.1 here path = .ok (place, files')) :
    AlikeBut place (.start (files, w.2)) (.start (files', w'.2)) := by
  refine ⟨fun other hother => ?_, rfl, hw.own⟩
  show files.node? other = files'.node? other
  rw [Platform.node?_openLog hlog hother, Platform.node?_openLog hlog' hother]
  exact hw.nodes other hother

/-- A job shows the same and leaves the same files but for its log, however much the log takes. -/
theorem Job.Unaware.outcome {job : Job σ} (h : job.Unaware place) (verbose : Bool) {w w' : Files × σ}
    (hw : AlikeBut place (.start w) (.start w')) :
    let o := job.outcome place w
    let o' := ({ job with verbose } : Job σ).outcome place w'
    ShowAlike o o' ∧
      AlikeBut place (.start (o.state.files, o.state.own)) (.start (o'.state.files, o'.state.own)) := by
  intro o o'
  obtain ⟨last, last', hlast, report, failure, signals, hrun, hrun'⟩ :=
    (h.matches verbose).run job.occasion job.document job.arguments hw
  have ho : o = ⟨report, failure, signals, last⟩ := hrun
  have ho' : o' = ⟨report, failure, signals, last'⟩ := hrun'
  rw [ho, ho']
  exact ⟨⟨rfl, rfl, rfl⟩, hlast.nodes, rfl, hlast.own⟩

/-- Runs show the same, however much their log takes. -/
theorem runJobs_retaken {jobs others : List (Job σ)} (hothers : List.Forall₂ Job.Retaken jobs others)
    (hjobs : ∀ job ∈ jobs, job.Discreet here path place) (hunaware : ∀ job ∈ jobs, job.Unaware place)
    {w w' : Files × σ} {old old' : List UInt8} (hw : LogHolds w.1 here path place old)
    (hw' : LogHolds w'.1 here path place old')
    (halike : AlikeBut place (.start w) (.start w')) :
    ∃ outcomes last outcomes' last', runJobs here path jobs w = .ok (outcomes, last) ∧
      runJobs here path others w' = .ok (outcomes', last') ∧
      List.Forall₂ ShowAlike outcomes outcomes' := by
  induction hothers generalizing w w' old old' with
  | nil => exact ⟨[], w, [], w', rfl, rfl, .nil⟩
  | @cons job other rest others hother _ ih =>
    obtain ⟨verbose, rfl⟩ := hother
    obtain ⟨files, hlog, hgrowing⟩ := hw.growing
    obtain ⟨files', hlog', hgrowing'⟩ := hw'.growing
    have hjob : job.Discreet here path place := hjobs job (by simp)
    have hother : ({ job with verbose } : Job σ).Discreet here path place :=
      ⟨hjob.silent, hjob.leaves, hjob.uncounted⟩
    let o := job.outcome place (files, w.2)
    let o' := ({ job with verbose } : Job σ).outcome place (files', w'.2)
    let next : Files × σ := (o.state.files, o.state.own)
    let next' : Files × σ := (o'.state.files, o'.state.own)
    -- the logs grow apart, but every job finds the same at all other places
    obtain ⟨hshow, hnext⟩ : ShowAlike o o' ∧ AlikeBut place (.start next) (.start next') :=
      (hunaware job (by simp)).outcome verbose (halike.openLog hlog hlog')
    have hholds : LogHolds next.1 here path place (old ++ job.text o) :=
      (hjob.growing_outcome hgrowing).logHolds
    have hholds' : LogHolds next'.1 here path place (old' ++ ({ job with verbose } : Job σ).text o') :=
      (hother.growing_outcome hgrowing').logHolds
    obtain ⟨outcomes, last, outcomes', last', hrest, hrest', hshown⟩ :=
      ih (fun job hjob => hjobs job (by simp [hjob])) (fun job hjob => hunaware job (by simp [hjob]))
        hholds hholds' hnext
    exact ⟨_, last, _, last', runJobs_cons hlog hrest, runJobs_cons hlog' hrest', .cons hshow hshown⟩

/-! ### The log of several runs -/

/-- Runs that are logged to one file are all made. Behind what it held at first, the file gets a line for each
record that it takes of the first run, then one for each that it takes of the second, and so on, and the records
of a run mirror its report. If the runners do not look at the log, the runs show the same however much the log
takes of each. -/
theorem log_mirrors_runs {jobs : List (Job σ)} (hjobs : ∀ job ∈ jobs, job.Discreet here path place)
    {w : Files × σ} (hw : LogHolds w.1 here path place old) :
    ∃ outcomes last parts, runJobs here path jobs w = .ok (outcomes, last) ∧
      List.Forall₂ (fun e bytes => e.1.Logs e.2 bytes) (jobs.zip outcomes) parts ∧
      LogHolds last.1 here path place (old ++ parts.flatten) ∧
      List.Forall₂ (Job.Mirrors place) jobs outcomes ∧
      ((∀ job ∈ jobs, job.Unaware place) → ∀ others, List.Forall₂ Job.Retaken jobs others →
        ∃ outcomes' last', runJobs here path others w = .ok (outcomes', last') ∧
          List.Forall₂ ShowAlike outcomes outcomes') := by
  obtain ⟨outcomes, last, parts, hruns, hlogs, hholds, hmirrors⟩ := exists_runJobs hjobs hw
  refine ⟨outcomes, last, parts, hruns, hlogs, hholds, hmirrors, fun hunaware others hothers => ?_⟩
  obtain ⟨_, _, outcomes', last', hruns', hothers, hshown⟩ :=
    runJobs_retaken hothers hjobs hunaware hw hw ⟨fun _ _ => rfl, rfl, rfl⟩
  obtain ⟨rfl, rfl⟩ := Prod.mk.inj (Except.ok.inj (hruns'.symm.trans hruns))
  exact ⟨outcomes', last', hothers, hshown⟩

/-- A captured text that cannot be stored is logged, by the second run only. -/
theorem log_mirrors_runs_unstored :
    let runner : Command.Runner (Scene Unit) := { call := fun _ command w => ({ reply := .ok command }, w) }
    let d : Document := { name := "p", steps := [.exec "true", .capture "lost" "date"] }
    let occasion : Run.Occasion := ⟨.zero, .epoch, fun _ => .zero, .zero⟩
    let job (verbose : Bool) : Job Unit := ⟨runner, occasion, d, ⟨[]⟩, verbose, fun i => toString i ++ "Z"⟩
    let jobs := [job false, job true]
    let w : Files × Unit := ({ nodes := [(["log"], .file (Text.utf8 "old\n") false)] }, ())
    let lines :=
      ["old",
        "0Z  INFO simplepipe::execution::engine: Starting pipeline p (00000000-0000-0000-0000-000000000000)",
        "1Z  INFO simplepipe::execution::engine: Running [(true)]",
        "2Z  INFO simplepipe::execution::engine: Finished [true] in 0ns",
        "3Z  INFO simplepipe::execution::engine: Running [lost = (date)]",
        "5Z ERROR simplepipe::execution::engine: Step 1 failed: undeclared variable: lost",
        "6Z  INFO simplepipe::execution::engine: Pipeline execution time 0ns",
        "0Z  INFO simplepipe::execution::engine: Starting pipeline p (00000000-0000-0000-0000-000000000000)",
        "1Z  INFO simplepipe::execution::engine: Running [(true)]",
        "2Z  INFO simplepipe::execution::engine: Finished [true] in 0ns",
        "3Z  INFO simplepipe::execution::engine: Running [lost = (date)]",
        "4Z DEBUG simplepipe::execution::executor: captured 4 bytes into lost",
        "5Z ERROR simplepipe::execution::engine: Step 1 failed: undeclared variable: lost",
        "6Z  INFO simplepipe::execution::engine: Pipeline execution time 0ns"]
    (∀ job ∈ jobs, job.Discreet [] "log" ["log"]) ∧ LogHolds w.1 [] "log" ["log"] (Text.utf8 "old\n") ∧
      ∃ outcomes last, runJobs [] "log" jobs w = .ok (outcomes, last) ∧
        LogHolds last.1 [] "log" ["log"] (Text.utf8 (printed lines)) ∧
        List.Forall₂ (Job.Mirrors ["log"]) jobs outcomes ∧
        ∃ outcomes' last', runJobs [] "log" [job true, job true] w = .ok (outcomes', last') ∧
          List.Forall₂ ShowAlike outcomes outcomes' := by
  intro runner d occasion job jobs w lines
  have hdiscreet : ∀ job ∈ jobs, job.Discreet [] "log" ["log"] := by
    intro j hj
    simp only [jobs, List.mem_cons, List.not_mem_nil, or_false] at hj
    obtain rfl | rfl := hj <;> exact ⟨fun _ _ _ => rfl, fun _ _ _ _ h => h, fun _ _ _ => rfl⟩
  have hunaware : ∀ job ∈ jobs, job.Unaware ["log"] := by
    intro j hj
    simp only [jobs, List.mem_cons, List.not_mem_nil, or_false] at hj
    obtain rfl | rfl := hj <;> exact fun _ _ _ _ h => ⟨rfl, h⟩
  have hholds : LogHolds w.1 [] "log" ["log"] (Text.utf8 "old\n") := ⟨w.1, by cbv, false, rfl⟩
  have hothers : List.Forall₂ Job.Retaken jobs [job true, job true] :=
    .cons ⟨true, rfl⟩ (.cons ⟨true, rfl⟩ .nil)
  obtain ⟨outcomes, last, parts, hruns, hlogs, hlog, hmirrors, hretaken⟩ := log_mirrors_runs hdiscreet hholds
  -- the runner answers alike wherever a run starts
  have hrecords : ∀ verbose v, Run.records ((job verbose).outcome ["log"] v).signals =
      Run.records ((job false).outcome ["log"] w).signals := by
    intro verbose v
    have halike : Run.Matches ((job verbose).logged ["log"]) ((job false).logged ["log"]) fun _ _ => True :=
      ⟨fun _ _ _ => rfl, fun _ _ _ => trivial, fun _ _ => trivial⟩
    obtain ⟨_, _, -, _, _, _, hrun, hrun'⟩ :=
      halike.run occasion d ⟨[]⟩ (s := .start v) (t := .start w) trivial
    simp only [Job.outcome, job, hrun, hrun']
  refine ⟨hdiscreet, hholds, outcomes, last, hruns, ?_, hmirrors, hretaken hunaware _ hothers⟩
  have hmade : List.Forall₂ (Job.Mirrors ["log"]) [job false, job true] outcomes := hmirrors
  obtain ⟨_, _, ⟨v, -, rfl, -⟩, hrest, rfl⟩ := List.forall₂_cons_left_iff.1 hmade
  obtain ⟨_, _, ⟨v', -, rfl, -⟩, hnone, rfl⟩ := List.forall₂_cons_left_iff.1 hrest
  obtain rfl := List.forall₂_nil_left_iff.1 hnone
  have hwritten : List.Forall₂ (fun e bytes => e.1.Logs e.2 bytes)
      [(job false, (job false).outcome ["log"] v), (job true, (job true).outcome ["log"] v')] parts := hlogs
  obtain ⟨first, _, hfirst, hbehind, rfl⟩ := List.forall₂_cons_left_iff.1 hwritten
  obtain ⟨second, _, hsecond, hend, rfl⟩ := List.forall₂_cons_left_iff.1 hbehind
  obtain rfl := List.forall₂_nil_left_iff.1 hend
  rw [Job.logs_iff, Job.text, Job.entries, hrecords] at hfirst hsecond
  have htext : "old\n" ++
      (Log.fileText false (Log.stamped (job false).time 0
          (Run.records ((job false).outcome ["log"] w).signals)) ++
        Log.fileText true (Log.stamped (job true).time 0
          (Run.records ((job false).outcome ["log"] w).signals))) = printed lines := by
    decide +kernel +zetaReduce
  rw [← htext, Text.utf8_append, Text.utf8_append, ← hfirst, ← hsecond]
  simpa using hlog

end CommandPipeline.CommandLine
