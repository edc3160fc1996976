import CommandPipeline.Log.Record
import Mathlib

/-! What a log file takes. Each entry of a level that the file takes is one line: its time, its level, the part
of the program that speaks, and the message. Characters of a message that could act on a terminal are shown by
their numbers. -/
namespace CommandPipeline.Log

/-! ### Messages -/

/-- The control characters of ASCII that act on a terminal, with what they are shown as. -/
def controls : List (Char × String) :=
  [('\x07', "\\x07"), ('\x08', "\\x08"), ('\x0c', "\\x0c"), ('\x1b', "\\x1b"), ('\x7f', "\\x7f")]

/-- `Shown c cs`: the character `c` of a message is shown as `cs`. -/
inductive Shown (c : Char) : List Char → Prop where
  | plain : (∀ e ∈ controls, c ≠ e.1) → c.toNat < 0x80 ∨ 0x9f < c.toNat → Shown c [c]
  | ascii {s : String} : (c, s) ∈ controls → Shown c s.toList
  | latin : 0x80 ≤ c.toNat → c.toNat ≤ 0x9f →
      Shown c ('\\' :: 'u' :: '\x7b' :: Nat.toDigits 16 c.toNat ++ ['\x7d'])

/-- `MessageShown message s`: the message is shown as `s`, character by character. -/
def MessageShown (message s : String) : Prop :=
  ∃ pieces, List.Forall₂ Shown message.toList pieces ∧ s.toList = pieces.flatten

theorem exists_control_iff {c : Char} : (∃ e ∈ controls, c = e.1) ↔
    c.toNat = 0x1B ∨ c.toNat = 0x07 ∨ c.toNat = 0x08 ∨ c.toNat = 0x0C ∨ c.toNat = 0x7F := by
  have hnumber : ∀ d : Char, c = d ↔ c.toNat = d.toNat := fun d => Char.toNat_inj.symm
  simp only [controls, List.mem_cons, List.not_mem_nil, or_false, exists_eq_or_imp, exists_eq_left, hnumber]
  show c.toNat = 0x07 ∨ c.toNat = 0x08 ∨ c.toNat = 0x0C ∨ c.toNat = 0x1B ∨ c.toNat = 0x7F ↔ _
  omega

theorem shown_iff {c : Char} {cs : List Char} : Shown c cs ↔ cs = escapeControl c := by
  constructor
  · rintro (⟨hplain, hrange⟩ | h | ⟨hlow, hhigh⟩)
    · have hnone := mt exists_control_iff.2 (not_exists.2 fun e he => hplain e he.1 he.2)
      rw [escapeControl, if_neg hnone, if_neg (by omega)]
    · simp only [controls, List.mem_cons, Prod.mk.injEq, List.not_mem_nil, or_false] at h
      rcases h with ⟨rfl, rfl⟩ | ⟨rfl, rfl⟩ | ⟨rfl, rfl⟩ | ⟨rfl, rfl⟩ | ⟨rfl, rfl⟩ <;> rfl
    · have hdigits : Nat.toDigits 16 c.toNat = [Nat.digitChar (c.toNat / 16), Nat.digitChar (c.toNat % 16)] := by
        rw [Nat.toDigits_of_base_le (by decide) (by omega), Nat.toDigits_of_lt_base (by omega)]
        rfl
      rw [escapeControl, if_neg (by omega), if_pos ⟨hlow, hhigh⟩, hdigits]
      rfl
  · rintro rfl
    simp only [escapeControl]
    split_ifs with hcontrol hlatin
    · obtain ⟨e, he, rfl⟩ := exists_control_iff.2 hcontrol
      have hshown : ∀ e ∈ controls,
          ['\\', 'x', Nat.digitChar (e.1.toNat / 16), Nat.digitChar (e.1.toNat % 16)] = e.2.toList := by
        decide
      rw [hshown e he]
      exact .ascii he
    · have h := Shown.latin hlatin.1 hlatin.2
      rw [Nat.toDigits_of_base_le (by decide) (by omega), Nat.toDigits_of_lt_base (by omega)] at h
      exact h
    · refine .plain (fun e he hc => hcontrol (exists_control_iff.1 ⟨e, he, hc⟩)) ?_
      omega

theorem messageShown_iff {message s : String} : MessageShown message s ↔ s = escapeMessage message := by
  have hpieces : ∀ (cs : List Char) (pieces : List (List Char)),
      List.Forall₂ Shown cs pieces ↔ pieces = cs.map escapeControl := by
    intro cs pieces
    induction cs generalizing pieces with
    | nil => simp
    | cons c cs ih => cases pieces <;> simp [shown_iff, ih]
  simp only [MessageShown, hpieces, exists_eq_left, ← List.flatMap_def]
  rw [escapeMessage, ← String.toList_inj, String.toList_ofList]

/-! ### Entries -/

/-- `Taken verbose level title`: a log file takes the level, under the title with the blanks around it. -/
inductive Taken (verbose : Bool) : Level → String → Prop where
  | error : Taken verbose .error " ERROR "
  | warn : Taken verbose .warn "  WARN "
  | info : Taken verbose .info "  INFO "
  | debug : verbose = true → Taken verbose .debug " DEBUG "

/-- `Written verbose e text`: a log file has the text for the entry. -/
inductive Written (verbose : Bool) : Entry → String → Prop where
  | line {time title target message s : String} {level : Level} : Taken verbose level title →
      MessageShown message s →
      Written verbose ⟨time, level, target, message⟩ (time ++ title ++ target ++ ": " ++ s ++ "\n")
  | nothing {time target message : String} {level : Level} : (∀ title, ¬ Taken verbose level title) →
      Written verbose ⟨time, level, target, message⟩ ""

theorem taken_iff {verbose : Bool} {level : Level} {target message title : String} :
    Taken verbose level title ↔
      fileTakes verbose ⟨level, target, message⟩ = true ∧ title = " " ++ level.padded ++ " " := by
  have herror : " " ++ Level.error.padded ++ " " = " ERROR " := by decide
  have hwarn : " " ++ Level.warn.padded ++ " " = "  WARN " := by decide
  have hinfo : " " ++ Level.info.padded ++ " " = "  INFO " := by decide
  have hdebug : " " ++ Level.debug.padded ++ " " = " DEBUG " := by decide
  constructor
  · rintro (- | - | - | rfl)
    · exact ⟨by cases verbose <;> rfl, herror.symm⟩
    · exact ⟨by cases verbose <;> rfl, hwarn.symm⟩
    · exact ⟨by cases verbose <;> rfl, hinfo.symm⟩
    · exact ⟨rfl, hdebug.symm⟩
  · rintro ⟨htakes, rfl⟩
    cases level with
    | error => exact herror ▸ .error
    | warn => exact hwarn ▸ .warn
    | info => exact hinfo ▸ .info
    | debug =>
      cases verbose with
      | true => exact hdebug ▸ .debug rfl
      | false => contradiction
    | trace => cases verbose <;> contradiction

theorem fileText_append (verbose : Bool) (entries more : List Entry) :
    fileText verbose (entries ++ more) = fileText verbose entries ++ fileText verbose more := by
  simp only [fileText, List.filter_append, List.map_append, String.join_append]

theorem fileText_singleton (verbose : Bool) (e : Entry) :
    fileText verbose [e] = if fileTakes verbose e.record then e.line false ++ "\n" else "" := by
  unfold fileText
  split_ifs with htakes <;> simp [htakes]

/-- A line without colours. -/
theorem line_plain (time target message : String) (level : Level) :
    Entry.line false ⟨time, level, target, message⟩ =
      time ++ (" " ++ level.padded ++ " ") ++ target ++ ": " ++ escapeMessage message := by
  simp [Entry.line, Display.Style.paint, String.append_assoc]

theorem written_iff {verbose : Bool} {e : Entry} {text : String} :
    Written verbose e text ↔ text = fileText verbose [e] := by
  obtain ⟨time, level, target, message⟩ := e
  rw [fileText_singleton, line_plain]
  constructor
  · rintro (⟨htaken, hs⟩ | hnone)
    · obtain ⟨htakes, rfl⟩ := taken_iff.1 htaken
      rw [if_pos htakes, messageShown_iff.1 hs]
    · rw [if_neg fun htakes => hnone _ (taken_iff.2 ⟨htakes, rfl⟩)]
  · rintro rfl
    split_ifs with htakes
    · exact .line (taken_iff.2 ⟨htakes, rfl⟩) (messageShown_iff.2 rfl)
    · exact .nothing fun title htaken => htakes (taken_iff.1 htaken).1

/-- Entries add to a log file what they add one by one, and nothing else. -/
theorem exists_written_iff {verbose : Bool} {entries : List Entry} {text : String} :
    (∃ texts, List.Forall₂ (Written verbose) entries texts ∧ text = String.join texts) ↔
      text = fileText verbose entries := by
  have htexts : ∀ (entries : List Entry) (texts : List String), List.Forall₂ (Written verbose) entries texts ↔
      texts = entries.map fun e => fileText verbose [e] := by
    intro entries texts
    induction entries generalizing texts with
    | nil => simp
    | cons e entries ih => cases texts <;> simp [written_iff, ih]
  have hjoin : String.join (entries.map fun e => fileText verbose [e]) = fileText verbose entries := by
    induction entries with
    | nil => rfl
    | cons e entries ih => rw [List.map_cons, String.join_cons, ih, ← fileText_append, List.singleton_append]
  simp only [htexts, exists_eq_left, hjoin]

end CommandPipeline.Log
