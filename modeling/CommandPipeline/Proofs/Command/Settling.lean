import CommandPipeline.Proofs.Command.Starting
import CommandPipeline.Proofs.Text.Cut
import CommandPipeline.Proofs.Text.Utf8

/-! What a command comes to. A command is started once or not at all, and how its program ended decides about
its failure before anybody looks at its output. So a command fails for the same reason whether its output is
kept or not, and one whose output is kept may besides turn out to have written no text. -/
namespace CommandPipeline.Command

open Text (isBlank utf8)
open Text.Utf8 (Lossy decode)

variable {σ : Type}

/-! ### Starting -/

/-- The program that a command starts and what comes of it, or none if the command has no word. -/
def attempt? (launch : Launcher σ) (hear : Log.Record → σ → σ) (command : String) (s : σ) :
    Option (String × Except StartFault Completion) :=
  (invocation? command).map fun (program, arguments) =>
    (program, (launch program arguments (hear (debugRecord ("Spawning: " ++ command)) s)).1)

theorem invocation?_eq_none_iff {command : String} :
    invocation? command = none ↔ ∀ c ∈ command.toList, isBlank c = true := by
  rw [← Text.words_eq_nil_iff]
  unfold invocation?
  cases Text.words command.toList <;> simp

/-! ### What was written -/

/-- `Stripped text out`: the longest beginning of the text that does not end with a line end. -/
structure Stripped (text out : List Char) : Prop where
  dropped : ∃ ends, text = out ++ ends ∧ ∀ c ∈ ends, c = '\n' ∨ c = '\r'
  unended : out.getLast? ≠ some '\n' ∧ out.getLast? ≠ some '\r'
  longest : ∀ p, p <+: text → p.getLast? ≠ some '\n' ∧ p.getLast? ≠ some '\r' → p <+: out

/-- `Complains stderr text`: the bytes read as the text with blanks around it, or as blanks alone. -/
inductive Complains (stderr : List UInt8) : Option String → Prop where
  | blank {cs : List Char} : Lossy stderr cs → (∀ c ∈ cs, isBlank c = true) → Complains stderr none
  | text {text : String} {before after : List Char} : Lossy stderr (before ++ text.toList ++ after) →
      (∀ c ∈ before, isBlank c = true) → (∀ c ∈ after, isBlank c = true) → text ≠ "" →
      (∀ c ∈ text.toList.head?, isBlank c = false) → (∀ c ∈ text.toList.getLast?, isBlank c = false) →
      Complains stderr (some text)

theorem Stripped.isPrefix {text out : List Char} (h : Stripped text out) : out <+: text := by
  obtain ⟨ends, rfl, -⟩ := h.dropped
  exact List.prefix_append out ends

theorem isLineEnd_eq_false_iff {cs : List Char} :
    (∀ c ∈ cs.getLast?, (c == '\n' || c == '\r') = false) ↔
      cs.getLast? ≠ some '\n' ∧ cs.getLast? ≠ some '\r' := by
  cases cs.getLast? <;> simp

theorem stripped_iff {text out : String} :
    Stripped text.toList out.toList ↔ withoutLineEnds text = out := by
  have hkept : Stripped text.toList (withoutLineEnds text).toList := by
    rw [withoutLineEnds, String.toList_ofList]
    obtain ⟨⟨ends, hends, htext⟩, hlast⟩ := Text.dropEndWhile_eq_iff.1
      (rfl : Text.dropEndWhile (fun c => c == '\n' || c == '\r') text.toList = _)
    exact ⟨⟨ends, htext, by simpa using hends⟩, isLineEnd_eq_false_iff.1 hlast, fun p hp hopen =>
      Text.prefix_dropEndWhile hp (isLineEnd_eq_false_iff.2 hopen)⟩
  constructor
  · intro h
    have hle := h.longest _ hkept.isPrefix hkept.unended
    have hge := hkept.longest _ h.isPrefix h.unended
    exact String.toList_injective (hle.eq_of_length_le hge.length_le)
  · rintro rfl
    exact hkept

theorem complains_iff {stderr : List UInt8} {o : Option String} :
    Complains stderr o ↔ (if complaint stderr = "" then none else some (complaint stderr)) = o := by
  have htrim : (complaint stderr).toList = Text.trim (Text.Utf8.decodeLossy stderr).toList :=
    String.toList_ofList
  constructor
  · rintro (⟨hlossy, hblank⟩ | ⟨hlossy, hbefore, hafter, hne, hhead, hlast⟩)
    · rw [Text.Utf8.lossy_iff.1 hlossy, Text.trim_eq_nil_iff.2 hblank] at htrim
      rw [if_pos (String.toList_eq_nil_iff.1 htrim)]
    · rw [Text.Utf8.lossy_iff.1 hlossy, List.append_assoc, Text.trim_blanks_append hbefore,
        Text.trim_append_blanks hafter, Text.trim_eq_self hhead hlast] at htrim
      rw [String.toList_injective htrim, if_neg hne]
  · rintro rfl
    split_ifs with hempty
    · rw [hempty, String.toList_empty, eq_comm, Text.trim_eq_nil_iff] at htrim
      exact .blank (Text.Utf8.lossy_iff.2 rfl) htrim
    · obtain ⟨before, after, hbefore, hafter, hcs⟩ := Text.exists_trim (Text.Utf8.decodeLossy stderr).toList
      rw [← htrim] at hcs
      refine .text (Text.Utf8.lossy_iff.2 hcs) hbefore hafter hempty ?_ ?_
      · rw [htrim]
        exact Text.head?_trim _
      · rw [htrim]
        exact Text.getLast?_trim _

/-! ### How a command ends -/

/-- `Settles command mode attempt reply`: with this outcome of its start, the reply to the command. -/
inductive Settles (command : String) :
    Mode → Option (String × Except StartFault Completion) → Except CommandError String → Prop where
  | empty {mode : Mode} : Settles command mode none (.error .empty)
  | notStarted {mode : Mode} {program : String} {fault : StartFault} :
      Settles command mode (some (program, .error fault)) (.error (.notStarted program fault))
  | failed {mode : Mode} {program : String} {c : Completion} {stderr : Option String} :
      c.ending ≠ .exited 0 → Complains c.stderr stderr →
      Settles command mode (some (program, .ok c)) (.error (.failed command c.ending.code? stderr))
  | plain {program : String} {c : Completion} : c.ending = .exited 0 →
      Settles command .plain (some (program, .ok c)) (.ok "")
  | notText {program : String} {c : Completion} {fault : Text.Utf8.Fault} : c.ending = .exited 0 →
      decode c.stdout = .error fault →
      Settles command .captured (some (program, .ok c)) (.error (.notText fault))
  | captured {program : String} {c : Completion} {text out : String} : c.ending = .exited 0 →
      utf8 text = c.stdout → Stripped text.toList out.toList →
      Settles command .captured (some (program, .ok c)) (.ok out)

theorem success_iff {ending : Ending} : ending.success = true ↔ ending = .exited 0 := by
  cases ending <;> simp [Ending.success]

section Judge

variable {command program : String} {mode : Mode} {c : Completion}

theorem reply_judge_failed (h : c.ending ≠ .exited 0) :
    (judge mode command c).reply = .error (.failed command c.ending.code?
      (if complaint c.stderr = "" then none else some (complaint c.stderr))) := by
  unfold judge
  rw [if_neg (mt success_iff.1 h)]

theorem reply_judge_plain (h : c.ending = .exited 0) : (judge .plain command c).reply = .ok "" := by
  unfold judge
  rw [if_pos (success_iff.2 h)]

theorem reply_judge_captured (h : c.ending = .exited 0) :
    (judge .captured command c).reply =
      ((decode c.stdout).map withoutLineEnds).mapError CommandError.notText := by
  unfold judge
  rw [if_pos (success_iff.2 h)]
  cases decode c.stdout <;> rfl

/-- A program that has ended settles its command in one way, and that is what the runner says. -/
theorem settles_judge (mode : Mode) (command program : String) (c : Completion) :
    Settles command mode (some (program, .ok c)) (judge mode command c).reply := by
  by_cases hending : c.ending = .exited 0
  · cases mode with
    | plain =>
      rw [reply_judge_plain hending]
      exact .plain hending
    | captured =>
      rw [reply_judge_captured hending]
      cases hdecode : decode c.stdout with
      | error fault => exact .notText hending hdecode
      | ok text => exact .captured hending (Text.Utf8.decode_eq_ok_iff.1 hdecode) (stripped_iff.2 rfl)
  · rw [reply_judge_failed hending]
    exact .failed hending (complains_iff.2 rfl)

end Judge

theorem Settles.unique {command : String} {mode : Mode}
    {attempt : Option (String × Except StartFault Completion)} {reply reply' : Except CommandError String}
    (h : Settles command mode attempt reply) (h' : Settles command mode attempt reply') :
    reply = reply' := by
  cases h with
  | empty => cases h'; rfl
  | notStarted => cases h'; rfl
  | failed hne hcomplains =>
    cases h' with
    | failed _ hcomplains' => rw [← complains_iff.1 hcomplains, ← complains_iff.1 hcomplains']
    | plain h => exact absurd h hne
    | notText h _ => exact absurd h hne
    | captured h _ _ => exact absurd h hne
  | plain h =>
    cases h' with
    | failed hne _ => exact absurd h hne
    | plain _ => rfl
  | notText h hfault =>
    cases h' with
    | failed hne _ => exact absurd h hne
    | notText _ hfault' => rw [Except.error.inj (hfault.symm.trans hfault')]
    | captured _ htext _ => exact absurd htext (Text.Utf8.exists_fault_iff.1 ⟨_, hfault⟩ _)
  | captured h htext hout =>
    cases h' with
    | failed hne _ => exact absurd h hne
    | notText _ hfault => exact absurd htext (Text.Utf8.exists_fault_iff.1 ⟨_, hfault⟩ _)
    | captured _ htext' hout' =>
      rw [← Text.Utf8.decode_eq_ok_iff] at htext htext'
      obtain rfl := Except.ok.inj (htext.symm.trans htext')
      rw [← stripped_iff.1 hout, ← stripped_iff.1 hout']

theorem settles_runWith (launch : Launcher σ) (hear : Log.Record → σ → σ) (mode : Mode) (command : String)
    (s : σ) :
    Settles command mode (attempt? launch hear command s) (runWith launch hear mode command s).1.reply := by
  unfold runWith attempt? invocation?
  cases (Text.words command.toList).map String.ofList with
  | nil => exact .empty
  | cons program arguments =>
    simp only [Option.map_some]
    split
    · next fault _ hlaunch =>
      rw [hlaunch]
      exact .notStarted
    · next c _ hlaunch =>
      rw [hlaunch]
      exact settles_judge mode command program c

theorem settles_iff {launch : Launcher σ} {hear : Log.Record → σ → σ} {mode : Mode} {command : String}
    {s : σ} {reply : Except CommandError String} :
    (runWith launch hear mode command s).1.reply = reply ↔
      Settles command mode (attempt? launch hear command s) reply :=
  ⟨fun h => h ▸ settles_runWith launch hear mode command s,
    (settles_runWith launch hear mode command s).unique⟩

/-! ### The two modes -/

section Modes

variable {command : String} {attempt : Option (String × Except StartFault Completion)}

theorem settles_plain_error_iff {e : CommandError} :
    Settles command .plain attempt (.error e) ↔
      Settles command .captured attempt (.error e) ∧ ∀ fault, e ≠ .notText fault := by
  constructor
  · rintro (_ | _ | ⟨hne, hcomplains⟩)
    · exact ⟨.empty, nofun⟩
    · exact ⟨.notStarted, nofun⟩
    · exact ⟨.failed hne hcomplains, nofun⟩
  · rintro ⟨_ | _ | ⟨hne, hcomplains⟩ | _ | _, htext⟩
    · exact .empty
    · exact .notStarted
    · exact .failed hne hcomplains
    · exact absurd rfl (htext _)

theorem settles_plain_ok_iff :
    Settles command .plain attempt (.ok "") ↔
      (∃ out, Settles command .captured attempt (.ok out)) ∨
        ∃ fault, Settles command .captured attempt (.error (.notText fault)) := by
  constructor
  · rintro (_ | _ | _ | @⟨program, c, hending⟩)
    cases hdecode : decode c.stdout with
    | error fault => exact .inr ⟨fault, .notText hending hdecode⟩
    | ok text =>
      exact .inl ⟨withoutLineEnds text,
        .captured hending (Text.Utf8.decode_eq_ok_iff.1 hdecode) (stripped_iff.2 rfl)⟩
  · rintro (⟨out, _ | _ | _ | _ | _ | ⟨hending, -, -⟩⟩ | ⟨fault, _ | _ | _ | _ | ⟨hending, -⟩ | _⟩)
    · exact .plain hending
    · exact .plain hending

theorem settles_empty_iff {mode : Mode} :
    Settles command mode attempt (.error .empty) ↔ attempt = none := by
  constructor
  · rintro (_ | _)
    rfl
  · rintro rfl
    exact .empty

theorem settles_notStarted_iff {mode : Mode} {program : String} {fault : StartFault} :
    Settles command mode attempt (.error (.notStarted program fault)) ↔
      attempt = some (program, .error fault) := by
  constructor
  · rintro (_ | _)
    rfl
  · rintro rfl
    exact .notStarted

theorem settles_failed_iff {mode : Mode} {text : String} {code : Option Int} {stderr : Option String} :
    Settles command mode attempt (.error (.failed text code stderr)) ↔
      ∃ program c, attempt = some (program, .ok c) ∧ c.ending ≠ .exited 0 ∧ text = command ∧
        code = c.ending.code? ∧ Complains c.stderr stderr := by
  constructor
  · rintro (_ | _ | ⟨hne, hcomplains⟩)
    exact ⟨_, _, rfl, hne, rfl, rfl, hcomplains⟩
  · rintro ⟨program, c, rfl, hne, rfl, rfl, hcomplains⟩
    exact .failed hne hcomplains

theorem settles_notText_iff :
    (∃ fault, Settles command .captured attempt (.error (.notText fault))) ↔
      ∃ program c, attempt = some (program, .ok c) ∧ c.ending = .exited 0 ∧
        ∀ text, utf8 text ≠ c.stdout := by
  constructor
  · rintro ⟨fault, _ | _ | _ | _ | ⟨hending, hdecode⟩⟩
    exact ⟨_, _, rfl, hending, Text.Utf8.exists_fault_iff.1 ⟨fault, hdecode⟩⟩
  · rintro ⟨program, c, rfl, hending, hnone⟩
    obtain ⟨fault, hdecode⟩ := Text.Utf8.exists_fault_iff.2 hnone
    exact ⟨fault, .notText hending hdecode⟩

theorem settles_captured_iff {out : String} :
    Settles command .captured attempt (.ok out) ↔
      ∃ program c text, attempt = some (program, .ok c) ∧ c.ending = .exited 0 ∧ utf8 text = c.stdout ∧
        Stripped text.toList out.toList := by
  constructor
  · rintro (_ | _ | _ | _ | _ | ⟨hending, htext, hout⟩)
    exact ⟨_, _, _, rfl, hending, htext, hout⟩
  · rintro ⟨program, c, text, rfl, hending, htext, hout⟩
    exact .captured hending htext hout

end Modes

/-- With the same outcome of its start, a command fails for the same reason whether its output is kept or not,
except that output which is kept has to be text. A command is empty exactly if it is blank, and exactly then
nothing is started. It fails exactly if its program did not end well, whatever that wrote. What is kept of a
text is all but the line ends that close it. -/
theorem modes_agree (launch : Launcher σ) (hear : Log.Record → σ → σ) (command : String) (s : σ) :
    let reply mode := (runWith launch hear mode command s).1.reply
    let attempt := attempt? launch hear command s
    (∀ e, reply .plain = .error e ↔ reply .captured = .error e ∧ ∀ fault, e ≠ .notText fault) ∧
    (reply .plain = .ok "" ↔
      (∃ out, reply .captured = .ok out) ∨ ∃ fault, reply .captured = .error (.notText fault)) ∧
    (∀ mode,
      (reply mode = .error .empty ↔ ∀ c ∈ command.toList, isBlank c = true) ∧
      (∀ started, reply mode = .error .empty ↔
        (runWith launch.noting (hearBeside hear) mode command (s, started)).2.2 = started) ∧
      (∀ program fault, reply mode = .error (.notStarted program fault) ↔
        attempt = some (program, .error fault)) ∧
      ∀ text code stderr, reply mode = .error (.failed text code stderr) ↔
        ∃ program c, attempt = some (program, .ok c) ∧ c.ending ≠ .exited 0 ∧ text = command ∧
          code = c.ending.code? ∧ Complains c.stderr stderr) ∧
    ((∃ fault, reply .captured = .error (.notText fault)) ↔
      ∃ program c, attempt = some (program, .ok c) ∧ c.ending = .exited 0 ∧ ∀ text, utf8 text ≠ c.stdout) ∧
    ∀ out, reply .captured = .ok out ↔
      ∃ program c text, attempt = some (program, .ok c) ∧ c.ending = .exited 0 ∧ utf8 text = c.stdout ∧
        Stripped text.toList out.toList := by
  intro reply attempt
  have hattempt : attempt = none ↔ invocation? command = none := Option.map_eq_none_iff
  refine ⟨fun e => ?_, ?_, fun mode => ⟨?_, fun started => ?_, fun program fault => ?_,
    fun text code stderr => ?_⟩, ?_, fun out => ?_⟩ <;> simp only [reply, settles_iff]
  · exact settles_plain_error_iff
  · exact settles_plain_ok_iff
  · rw [settles_empty_iff, ← invocation?_eq_none_iff]
    exact hattempt
  · rw [settles_empty_iff, started_runWith, List.append_right_eq_self, Option.toList_eq_nil_iff]
    exact hattempt
  · exact settles_notStarted_iff
  · exact settles_failed_iff
  · exact settles_notText_iff
  · exact settles_captured_iff

end CommandPipeline.Command
