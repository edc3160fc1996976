import CommandPipeline.Proofs.CommandLine.Streams
import CommandPipeline.Proofs.Language.Written

/-! The reason of a failure. A step that fails gives its reason in a line of its own. An output that is not
found is told by log records alone, so that its reason depends on the filter of log records. -/
namespace CommandPipeline.CommandLine

open Display (Screen)
open Run (Failure RunError)

variable {σ : Type}

/-! ### Printed text -/

/-- The text is part of the printed lines. -/
def Shows (lines : List String) (text : String) : Prop := text.toList <:+: (printed lines).toList

theorem toList_printed (lines : List String) :
    (printed lines).toList = lines.flatMap fun line => line.toList ++ ['\n'] := by
  induction lines with
  | nil => rfl
  | cons line rest ih =>
    simp only [printed, List.map_cons, String.join_cons, String.toList_append, List.flatMap_cons] at ih ⊢
    rw [ih]
    rfl

theorem shows_of_mem {lines : List String} {line text : String} (hline : line ∈ lines)
    (htext : text.toList <:+: line.toList) : Shows lines text := by
  have hends : line.toList <:+: line.toList ++ ['\n'] := (List.prefix_append _ _).isInfix
  rw [Shows, toList_printed, List.flatMap_def]
  exact (htext.trans hends).trans (List.infix_of_mem_flatten (List.mem_map_of_mem hline))

/-- A text that ends no line is part of the printed lines only where it is part of one of them. -/
theorem exists_of_shows {lines : List String} {text : String} (hne : text.toList ≠ [])
    (hend : '\n' ∉ text.toList) (h : Shows lines text) : ∃ line ∈ lines, text.toList <:+: line.toList := by
  rw [Shows, toList_printed] at h
  generalize text.toList = cs at hne hend h ⊢
  -- what reaches up to the end of a line, or over it, has the end in it
  have hover : ∀ {front line : List Char}, front <:+ line ++ ['\n'] → front <+: cs → front = [] := by
    intro front line hsuffix hbegins
    refine (List.suffix_concat_iff.1 hsuffix).resolve_right ?_
    rintro ⟨rest, rfl, -⟩
    exact hend (hbegins.subset (List.mem_append_right rest List.mem_cons_self))
  induction lines with
  | nil => exact absurd (List.infix_nil.1 h) hne
  | cons line rest ih =>
    have hrest : cs <:+: (rest.flatMap fun line => line.toList ++ ['\n']) →
        ∃ l ∈ line :: rest, cs <:+: l.toList := by
      intro hcs
      obtain ⟨l, hl, hcs⟩ := ih hcs
      exact ⟨l, .tail _ hl, hcs⟩
    rw [List.flatMap_cons] at h
    obtain h | h | ⟨front, back, rfl, hfront, hback⟩ := List.infix_append_iff.1 h
    · obtain h | h := List.infix_concat_iff.1 h
      · exact absurd (hover h List.prefix_rfl) hne
      · exact ⟨line, .head _, h⟩
    · exact hrest h
    · obtain rfl := hover hfront (List.prefix_append front back)
      exact hrest hback.isInfix

/-! ### Records on the screen -/

theorem escapeMessage_append (s t : String) :
    Log.escapeMessage (s ++ t) = Log.escapeMessage s ++ Log.escapeMessage t := by
  simp only [Log.escapeMessage, String.toList_append, List.flatMap_append, String.ofList_append]

theorem escapeMessage_eq_self {s : String} (h : ∀ c ∈ s.toList, Log.escapeControl c = [c]) :
    Log.escapeMessage s = s := by
  have hchars : s.toList.flatMap Log.escapeControl = s.toList := by
    rw [List.flatMap_congr h, List.flatMap_singleton']
  rw [Log.escapeMessage, hchars, String.ofList_toList]

/-- No character of a name acts on a terminal. -/
theorem escapeControl_of_isNameChar {c : Char} (h : Language.isNameChar c = true) :
    Log.escapeControl c = [c] := by
  have hc := Language.toNat_of_isNameChar h
  rw [Log.escapeControl, if_neg (by omega), if_neg (by omega)]

theorem escapeMessage_outputNotFound {name : String} (h : Language.isName name.toList = true) :
    Log.escapeMessage (RunError.outputNotFound name).message = (RunError.outputNotFound name).message := by
  refine (escapeMessage_append _ _).trans ?_
  rw [escapeMessage_eq_self fun c hc => escapeControl_of_isNameChar ((Language.isName_iff.1 h).2 c hc)]
  rfl

/-- `h.Carries verbose entries text`: one of the entries passes the filter, and its line has the text in it. -/
def Host.Carries (h : Host σ) (verbose : Bool) (entries : List Log.Entry) (text : String) : Prop :=
  ∃ e ∈ entries, (Log.Filter.ofSetting h.logSetting verbose).allows e.record = true ∧
    text.toList <:+: (e.line h.logColour).toList

theorem Host.recordLines_append (h : Host σ) (verbose : Bool) (entries more : List Log.Entry) :
    h.recordLines verbose (entries ++ more) = h.recordLines verbose entries ++ h.recordLines verbose more := by
  simp only [Host.recordLines, List.filter_append, List.map_append]

theorem Host.carries_iff {h : Host σ} {verbose : Bool} {entries : List Log.Entry} {text : String} :
    h.Carries verbose entries text ↔
      ∃ line ∈ h.recordLines verbose entries, text.toList <:+: line.toList := by
  simp [Host.Carries, Host.recordLines, and_assoc]

/-- The line of an entry ends with its message. -/
theorem infix_line {e : Log.Entry} {before text : String} (colour : Bool)
    (hmessage : e.record.message = before ++ text) (htext : Log.escapeMessage text = text) :
    text.toList <:+: (e.line colour).toList := by
  simp only [Log.Entry.line, hmessage, escapeMessage_append, htext]
  rw [← String.append_assoc, String.toList_append]
  exact (List.suffix_append _ _).isInfix

/-- No log record reaches the screen. -/
def Host.Silent (h : Host σ) (verbose : Bool) : Prop :=
  ∀ record, (Log.Filter.ofSetting h.logSetting verbose).allows record = false

theorem Host.Silent.recordLines {h : Host σ} {verbose : Bool} (hsilent : h.Silent verbose)
    (entries : List Log.Entry) : h.recordLines verbose entries = [] := by
  rw [Host.recordLines, List.filter_eq_nil_iff.2 fun e _ => by simp [hsilent e.record], List.map_nil]

/-- A filter without a setting lets errors pass. -/
theorem allows_error_unset (verbose : Bool) (target message : String) :
    (Log.Filter.ofSetting none verbose).allows ⟨.error, target, message⟩ = true := by
  cases verbose <;> simp [Log.Filter.ofSetting, Log.Filter.upTo, Log.Filter.allows, Log.Directive.concerns,
    Log.Filter.moreSpecific, Log.Level.rank]

/-- A filter that is off lets no record pass. -/
theorem allows_off (verbose : Bool) (record : Log.Record) :
    (Log.Filter.ofSetting (some "off") verbose).allows record = false := by
  have hsplit : "off".splitOn "," = ["off"] := by cbv
  have hdirective : Log.Filter.directive? "off" = some [⟨none, none, 0⟩] := by decide +kernel
  have hoff : Log.Filter.ofSetting (some "off") verbose = ⟨[⟨none, none, 0⟩]⟩ := by
    simp [Log.Filter.ofSetting, Log.Filter.parse?, hsplit, hdirective]
  have hlevel : record.level.rank ≠ 0 := by cases record.level <;> decide
  simp [hoff, Log.Filter.allows, Log.Directive.concerns, Log.Filter.moreSpecific, hlevel]

/-! ### An output that is not found -/

theorem signals_of_conclude {d : Document} {p : Run.Progress σ} {e : RunError}
    (h : (Run.conclude d p).failure = some (none, e)) :
    (Run.conclude d p).signals = [Run.errorRecord e.message] := by
  simp only [Run.conclude] at h ⊢
  split at h
  · simp at h
  · split at h
    · contradiction
    · cases h
      rfl

/-- A run that fails at none of its steps has an output that is not found, and it logs the reason itself. -/
theorem outputNotFound_of_step_eq_none {runner : Command.Runner σ} {occasion : Run.Occasion} {d : Document}
    {args : Arguments} {s : σ} {f : Failure} (hf : (Run.run runner occasion d args s).failure = some f)
    (hstep : f.step = none) :
    ∃ name, d.output = some name ∧ f = ⟨d.name, none, .outputNotFound name⟩ ∧
      ⟨.error, Log.engine, f.cause.message⟩ ∈ Run.records (Run.run runner occasion d args s).signals := by
  have hagrees := Run.agrees_run runner occasion d args s
  rw [hf] at hagrees
  obtain ⟨⟨step, cause⟩, hconclude, rfl⟩ := Option.map_eq_some_iff.1 hf
  obtain rfl : step = none := hstep
  cases hagrees with
  | @outputMissing name _ hname _ _ =>
    refine ⟨name, hname, rfl, ?_⟩
    simp only [Run.run, signals_of_conclude hconclude, Run.records_append]
    exact List.mem_append_right _ (List.mem_append_left _ (List.mem_singleton_self _))

/-- A loaded document was read from a text. -/
theorem Host.writable_of_load {h : Host σ} {path : String} {d : Document}
    (hload : (h.load path).value = .ok d) : Language.WritableDocument d := by
  simp only [Host.load, Language.parseFile] at hload
  split at hload
  · contradiction
  · exact Language.writable_of_parse hload

/-! ### Text without a colon -/

theorem colon_notMem_append {s t : String} (hs : ':' ∉ s.toList) (ht : ':' ∉ t.toList) :
    ':' ∉ (s ++ t).toList := by
  rw [String.toList_append, List.mem_append]
  exact not_or.2 ⟨hs, ht⟩

theorem colon_notMem_styled (screen : Screen) (style : Display.Style) {text : String}
    (h : ':' ∉ text.toList) : ':' ∉ (screen.styled style text).toList := by
  have hcode : ':' ∉ ("\x1b[" ++ toString style.code ++ "m").toList := by cases style <;> decide
  unfold Screen.styled Display.Style.paint
  split_ifs
  · exact colon_notMem_append (colon_notMem_append hcode h) (by decide)
  · exact h

/-- The line that a run failed has no colon. -/
theorem colon_notMem_failedLine (screen : Screen) {d : Document} (h : Language.isName d.name.toList = true) :
    ':' ∉ (failedLine screen d).toList := by
  have hsymbol : ':' ∉ (screen.symbol .cross ++ " ").toList := by
    unfold Screen.symbol
    split_ifs <;> decide
  have hname : ':' ∉ d.name.toList := fun hc =>
    absurd ((Language.isName_iff.1 h).2 ':' hc) (by decide)
  have hbold := colon_notMem_append hsymbol (colon_notMem_styled screen .bold hname)
  exact colon_notMem_append (colon_notMem_append hbold (by decide))
    (colon_notMem_styled screen .red (by decide))

/-! ### Ways to the error output -/

/-- The reason of a failure has a way to the error output: the line of its step, the record of the failure,
or that of the run unless a log file takes it. -/
inductive Outlet (filter : Log.Filter) (log : Option Platform.Path) (f : Failure) : Prop where
  | step : f.step ≠ none → Outlet filter log f
  | failure : filter.allows ⟨.error, Log.program, f.message⟩ = true → Outlet filter log f
  | run : log = none → filter.allows ⟨.error, Log.engine, f.cause.message⟩ = true → Outlet filter log f

section Passed

variable {h : Host σ} {verbose : Bool} {r : RunRequest} {d : Document} {args : Arguments}
  {log : Option Platform.Path} {files : Platform.Files} {s : σ} {f : Failure}

/-- The entries that reach the screen around a run, if the filter lets them pass. -/
def Host.entriesAround (h : Host σ) (verbose : Bool) (r : RunRequest) (d : Document) (args : Arguments)
    (log : Option Platform.Path) (files : Platform.Files) (s : σ) : List Log.Entry :=
  let o := h.outcome verbose d args log files s
  h.entriesBefore r log o.signals ++ h.entriesBehind r log o.failure

/-- The reason of a failure is part of the error output exactly if the failure is that of a step, or a log record
on the screen has the reason in its line. -/
theorem shows_reason_iff (hpassed : Passed h r d args log files)
    (hf : (h.outcome verbose d args log files s).failure = some f) :
    Shows (runPipeline h verbose r s).stderr f.cause.message ↔ f.step ≠ none ∨
      h.Carries verbose (h.entriesAround verbose r d args log files s) f.cause.message := by
  obtain ⟨about, htells, hstderr⟩ := stderr_runPipeline verbose s hpassed
  rw [hstderr, Host.carries_iff, Host.entriesAround, Host.recordLines_append]
  rw [hf] at htells
  cases htells with
  | @stepFailed f k entry hk hentry =>
    refine iff_of_true (shows_of_mem
      (List.mem_append_left _ (List.mem_append_right _ (.tail _ (.tail _ (.head _))))) ?_) (.inl (by simp [hk]))
    rw [String.toList_append]
    exact (List.suffix_append _ _).isInfix
  | outputMissing hstep =>
    obtain ⟨name, hname, rfl, -⟩ := outputNotFound_of_step_eq_none hf hstep
    have hdocument := Host.writable_of_load hpassed.loads
    have hmessage : (RunError.outputNotFound name).message.toList =
        "output variable not found: ".toList ++ name.toList := String.toList_append
    have hcolon : ':' ∈ (RunError.outputNotFound name).message.toList := by
      rw [hmessage]
      exact List.mem_append_left _ (by decide)
    have hend : '\n' ∉ (RunError.outputNotFound name).message.toList := by
      rw [hmessage]
      refine List.not_mem_append (by decide) fun hmem => ?_
      exact absurd ((Language.isName_iff.1 (hdocument.output name hname)).2 '\n' hmem) (by decide)
    have hfailed := colon_notMem_failedLine h.screen hdocument.name
    constructor
    · intro hshows
      obtain ⟨line, hline, htext⟩ := exists_of_shows (List.ne_nil_of_mem hcolon) hend hshows
      have hplain : line ≠ "" ∧ line ≠ failedLine h.screen d := by
        constructor <;> rintro rfl
        · exact absurd (htext.subset hcolon) (by decide)
        · exact hfailed (htext.subset hcolon)
      simp only [List.mem_append, List.mem_cons, hplain.1, hplain.2, List.not_mem_nil, or_false] at hline
      exact .inr ⟨line, List.mem_append.2 hline, htext⟩
    · rintro (h | ⟨line, hline, htext⟩)
      · exact absurd rfl h
      · rcases List.mem_append.1 hline with hline | hline
        · exact shows_of_mem (List.mem_append_left _ (List.mem_append_left _ hline)) htext
        · exact shows_of_mem (List.mem_append_right _ hline) htext

/-- The reason of a failure reaches the error output on any of its ways. -/
theorem shows_reason (hpassed : Passed h r d args log files)
    (hf : (h.outcome verbose d args log files s).failure = some f)
    (houtlet : Outlet (Log.Filter.ofSetting h.logSetting verbose) log f) :
    Shows (runPipeline h verbose r s).stderr f.cause.message := by
  rw [shows_reason_iff hpassed hf]
  by_cases hstep : f.step = none
  · refine .inr ?_
    obtain ⟨name, hname, rfl, hrecord⟩ := outputNotFound_of_step_eq_none hf hstep
    have hescape := escapeMessage_outputNotFound ((Host.writable_of_load hpassed.loads).output name hname)
    rw [Host.entriesAround, hf]
    cases houtlet with
    | step h => exact absurd hstep h
    | failure hallows =>
      exact ⟨_, List.mem_append_right _ List.mem_cons_self, hallows, infix_line h.logColour rfl hescape⟩
    | run hlog hallows =>
      subst hlog
      have hmem := hrecord
      rw [← Log.map_record_stamped h.runTime 0 (Run.records _)] at hmem
      obtain ⟨e, he, hrecord⟩ := List.mem_map.1 hmem
      have hmessage : e.record.message = "" ++ (RunError.outputNotFound name).message := by
        rw [hrecord, String.empty_append]
      exact ⟨e, List.mem_append_left _ (List.mem_append_right _ he), hrecord ▸ hallows,
        infix_line h.logColour hmessage hescape⟩
  · exact .inl hstep

/-- A failure at no step is told without its reason on a screen that no log record reaches. -/
theorem stderr_of_silent (hpassed : Passed h r d args log files)
    (hf : (h.outcome verbose d args log files s).failure = some f) (hstep : f.step = none)
    (hsilent : h.Silent verbose) :
    (runPipeline h verbose r s).stderr = ["", failedLine h.screen d] := by
  obtain ⟨about, htells, hstderr⟩ := stderr_runPipeline verbose s hpassed
  rw [hf] at htells
  rw [hstderr, hsilent.recordLines, hsilent.recordLines, List.nil_append, List.append_nil]
  cases htells with
  | stepFailed hk =>
    rw [hstep] at hk
    contradiction
  | outputMissing => rfl

/-- Nothing else tells the reason of a failure at no step. -/
theorem not_shows_reason (hpassed : Passed h r d args log files)
    (hf : (h.outcome verbose d args log files s).failure = some f) (hstep : f.step = none)
    (hsilent : h.Silent verbose) : ¬ Shows (runPipeline h verbose r s).stderr f.cause.message := by
  rw [shows_reason_iff hpassed hf]
  rintro (h | ⟨e, -, hallows, -⟩)
  · exact h hstep
  · rw [hsilent e.record] at hallows
    contradiction

end Passed

/-! ### A whole run -/

/-- The reason of a failure is part of the error output exactly if a step failed, or a log record that passes
the filter has it in its line. It is if a way to the error output is open, which it always is for a step
that fails, and for any failure without a setting of the filter. But where no log record passes the filter,
an output that is not found is told without its reason. -/
theorem failures_show_reasons (h : Host σ) (words : List String) (s : σ) {verbose : Bool} {r : RunRequest}
    {d : Document} {args : Arguments} {log : Option Platform.Path} {files : Platform.Files} {f : Failure}
    (hwords : Invocation.ofWords words = .ok ⟨verbose, .run r⟩) (hpassed : Passed h r d args log files)
    (hf : (h.outcome verbose d args log files s).failure = some f) :
    let stderr := (execute h words s).stderr
    (Shows stderr f.cause.message ↔ f.step ≠ none ∨
      h.Carries verbose (h.entriesAround verbose r d args log files s) f.cause.message) ∧
    (Outlet (Log.Filter.ofSetting h.logSetting verbose) log f → Shows stderr f.cause.message) ∧
    (h.logSetting = none → Shows stderr f.cause.message) ∧
    (f.step = none → h.Silent verbose →
      stderr = ["", failedLine h.screen d] ∧ ¬ Shows stderr f.cause.message) := by
  intro stderr
  have hstderr : stderr = (runPipeline h verbose r s).stderr := congrArg Result.stderr (execute_run hwords h s)
  rw [hstderr]
  refine ⟨shows_reason_iff hpassed hf, shows_reason hpassed hf, fun hunset => ?_, fun hstep hsilent => ?_⟩
  · refine shows_reason hpassed hf (.failure ?_)
    rw [hunset]
    exact allows_error_unset verbose _ _
  · exact ⟨stderr_of_silent hpassed hf hstep hsilent, not_shows_reason hpassed hf hstep hsilent⟩

/-! ### An output that no variable has -/

/-- A host with a pipeline whose output is not among its variables. -/
def ghostHost (tokens : Language.TokenSource) (occasion : Run.Occasion) (logSetting : Option String) :
    Host Unit where
  files := { nodes := [(["p"], .file (Text.utf8 "pipeline p\nbegin\nend ghost") false)] }
  logSetting
  time := fun _ => "1970-01-01T00:00:00Z"
  runTime := fun _ => "1970-01-01T00:00:00Z"
  tokens
  occasion
  runner := fun _ => { call := fun _ command w => ({ reply := .ok command }, w) }

def ghostDocument : Document := { name := "p", output := some "ghost" }

theorem passed_ghost (tokens : Language.TokenSource) (occasion : Run.Occasion) (logSetting : Option String) :
    let h := ghostHost tokens occasion logSetting
    Passed h { file := "p" } ghostDocument ⟨[]⟩ none h.files := by
  intro h
  have hread : Platform.readText h.files h.here "p" = .ok "pipeline p\nbegin\nend ghost" := by cbv
  have hparse : Language.parse h.tokens "pipeline p\nbegin\nend ghost" = .ok ghostDocument :=
    (Language.parse_eq_ok_iff _ _ _).2 ⟨⟨_, 0⟩, by cbv, rfl⟩
  exact ⟨Host.value_load hread hparse, rfl, rfl⟩

theorem failure_ghost (tokens : Language.TokenSource) (occasion : Run.Occasion) (logSetting : Option String) :
    let h := ghostHost tokens occasion logSetting
    (h.outcome false ghostDocument ⟨[]⟩ none h.files ()).failure =
      some ⟨"p", none, .outputNotFound "ghost"⟩ := rfl

theorem failures_show_reasons_ghost :
    let words := ["run", "-f", "p"]
    let occasion : Run.Occasion := ⟨.zero, ⟨"1970-01-01T00:00:00Z", by decide⟩, fun _ => .zero, .zero⟩
    let h := ghostHost { letter := fun _ _ => 0 } occasion none
    Invocation.ofWords words = .ok ⟨false, .run { file := "p" }⟩ ∧
      Passed h { file := "p" } ghostDocument ⟨[]⟩ none h.files ∧
      (h.outcome false ghostDocument ⟨[]⟩ none h.files ()).failure =
        some ⟨"p", none, .outputNotFound "ghost"⟩ ∧
      Shows (execute h words ()).stderr "output variable not found: ghost" := by
  intro words occasion h
  have hwords : Invocation.ofWords words = .ok ⟨false, .run { file := "p" }⟩ := by rfl
  have hpassed := passed_ghost { letter := fun _ _ => 0 } occasion none
  have hfailure := failure_ghost { letter := fun _ _ => 0 } occasion none
  exact ⟨hwords, hpassed, hfailure, (failures_show_reasons h words () hwords hpassed hfailure).2.2.1 rfl⟩

/-- With the filter off, an output that is not found is told without its reason. -/
theorem reason_hidden_by_filter :
    ¬ ∀ (h : Host Unit) (words : List String) (s : Unit) (verbose : Bool) (r : RunRequest) (d : Document)
        (args : Arguments) (log : Option Platform.Path) (files : Platform.Files) (f : Failure),
      Invocation.ofWords words = .ok ⟨verbose, .run r⟩ → Passed h r d args log files →
      (h.outcome verbose d args log files s).failure = some f →
      Shows (execute h words s).stderr f.cause.message := by
  intro hall
  let occasion : Run.Occasion := ⟨.zero, ⟨"1970-01-01T00:00:00Z", by decide⟩, fun _ => .zero, .zero⟩
  have hwords : Invocation.ofWords ["run", "-f", "p"] = .ok ⟨false, .run { file := "p" }⟩ := by rfl
  have hpassed := passed_ghost { letter := fun _ _ => 0 } occasion (some "off")
  have hfailure := failure_ghost { letter := fun _ _ => 0 } occasion (some "off")
  have hshows := hall _ _ () _ _ _ _ _ _ _ hwords hpassed hfailure
  rw [execute_run hwords] at hshows
  exact not_shows_reason hpassed hfailure rfl (allows_off false) hshows

end CommandPipeline.CommandLine
