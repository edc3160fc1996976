import CommandPipeline.Proofs.Command.Starting
import CommandPipeline.Proofs.Interpolation.Boundary
import CommandPipeline.Proofs.Language.Form
import CommandPipeline.Proofs.Text.Words

/-! Words of commands. As long as the values are single words, no value moves the end of a word: the words
of a command become what they become by themselves, so that the command as it is written decides how many
arguments a program gets. -/
namespace CommandPipeline

open Text

/-- No name holds a blank, and every value is a single word. -/
structure Bindings.SingleWords (b : Bindings) : Prop where
  names : ∀ name ∈ b.names, ∀ c ∈ name.toList, isBlank c = false
  values : ∀ name value, b.get? name = some value →
    value ≠ "" ∧ ∀ c ∈ value.toList, isBlank c = false

namespace Bindings

variable {b : Bindings} {c : Char} {cs w : List Char}

theorem SingleWords.breaks (h : b.SingleWords) (hc : ∀ c ∈ cs.head?, isBlank c = true) :
    Breaks b.nameTexts cs := by
  intro c hhead n hn hmem
  have hblank := h.names (String.ofList n) hn c (by rwa [String.toList_ofList])
  rw [hc c hhead] at hblank
  contradiction

theorem interpolateText_cons_blank (hc : isBlank c = true) (cs : List Char) :
    b.interpolateText (c :: cs) = c :: b.interpolateText cs := by
  have hdollar : c ≠ '$' := by
    rintro rfl
    exact absurd hc (by decide)
  rw [interpolateText_of_scan (.literal (fun he => absurd he hdollar) (b.scan_tokens cs)),
    interpolateText_of_scan (b.scan_tokens cs)]
  rfl

/-- A token that is no blank becomes a text that is not empty and holds no blank. -/
theorem SingleWords.render (h : b.SingleWords) {ts : List Token} (hs : Scan b.nameTexts w ts)
    (hw : ∀ c ∈ w, isBlank c = false) {t : Token} (ht : t ∈ ts) :
    Token.render b t ≠ [] ∧ ∀ c ∈ Token.render b t, isBlank c = false := by
  cases t with
  | literal c =>
    have hmem : c ∈ ts.flatMap Token.spelling :=
      List.mem_flatMap.2 ⟨_, ht, by simp [Token.spelling]⟩
    rw [hs.spelling] at hmem
    simpa [Token.render] using hw c hmem
  | var name =>
    obtain ⟨value, hvalue, hrender⟩ := render_var (hs.mem_of_var ht)
    obtain ⟨hne, hblank⟩ := h.values _ value hvalue
    rw [hrender]
    exact ⟨by simpa using hne, hblank⟩

/-- A word becomes a word. -/
theorem SingleWords.word (h : b.SingleWords) (hne : w ≠ []) (hw : ∀ c ∈ w, isBlank c = false) :
    b.interpolateText w ≠ [] ∧ ∀ c ∈ b.interpolateText w, isBlank c = false := by
  have hs := b.scan_tokens w
  rw [interpolateText_of_scan hs]
  constructor
  · intro hnil
    have hnone := List.eq_nil_iff_forall_not_mem.2 fun t ht =>
      (h.render hs hw ht).1 (List.flatMap_eq_nil_iff.1 hnil t ht)
    exact hne (by rw [← hs.spelling, hnone, List.flatMap_nil])
  · intro c hc
    obtain ⟨t, ht, hmem⟩ := List.mem_flatMap.1 hc
    exact (h.render hs hw ht).2 c hmem

/-- The words of a text become the words of what the text becomes. -/
theorem SingleWords.worded (h : b.SingleWords) {ws : List (List Char)} (hcs : Worded cs ws) :
    Worded (b.interpolateText cs) (ws.map b.interpolateText) := by
  induction hcs with
  | nil =>
    rw [interpolateText_of_scan .nil]
    exact .nil
  | blank hc _ ih =>
    rw [interpolateText_cons_blank hc]
    exact .blank hc ih
  | @word w rest ws hne hw hrest _ ih =>
    obtain ⟨hne', hw'⟩ := h.word hne hw
    rw [interpolateText_append (h.breaks hrest).cut]
    refine .word hne' hw' ?_ ih
    cases rest with
    | nil => simp [interpolateText_of_scan .nil]
    | cons c rest => simpa [interpolateText_cons_blank (hrest c rfl)] using hrest c rfl

/-- Variables that are named as the language has it, with values of one word each. -/
theorem singleWords_of_isName (hnames : ∀ name ∈ b.names, Language.isName name.toList = true)
    (hvalues : ∀ name value, b.get? name = some value →
      value ≠ "" ∧ ∀ c ∈ value.toList, isBlank c = false) : b.SingleWords where
  names name hname c hc :=
    Language.isBlank_eq_false_of_isNameChar ((Language.isName_iff.1 (hnames name hname)).2 c hc)
  values := hvalues

theorem SingleWords.words_interpolate (h : b.SingleWords) (command : String) :
    (words (b.interpolate command).toList).map String.ofList =
      ((words command.toList).map String.ofList).map b.interpolate := by
  have hword : ∀ w : List Char,
      b.interpolate (String.ofList w) = String.ofList (b.interpolateText w) := by
    intro w
    rw [← String.toList_inj, toList_interpolate, String.toList_ofList, String.toList_ofList]
  rw [toList_interpolate, (h.worded (worded_words command.toList)).words_eq, List.map_map, List.map_map]
  exact List.map_congr_left fun w _ => (hword w).symm

/-- If every value is a single word, the words of a command are the words that it has as it is written,
each with its variables replaced. So a runner starts the program of the command as it is written, with
as many arguments. -/
theorem interpolation_keeps_words (b : Bindings) (command : String)
    (hnames : ∀ name ∈ b.names, Language.isName name.toList = true)
    (hvalues : ∀ name value, b.get? name = some value →
      value ≠ "" ∧ ∀ c ∈ value.toList, isBlank c = false) :
    (words (b.interpolate command).toList).map String.ofList =
        ((words command.toList).map String.ofList).map b.interpolate ∧
      ∀ {σ : Type} (launch : Command.Launcher σ) (hear : Log.Record → σ → σ) (mode : Command.Mode)
        (s : σ) (started : List (String × List String)),
        (Command.runWith launch.noting (Command.hearBeside hear) mode (b.interpolate command)
          (s, started)).2.2 =
          started ++ (Command.invocation? command).toList.map fun i =>
            (b.interpolate i.1, i.2.map b.interpolate) := by
  have hwords := (singleWords_of_isName hnames hvalues).words_interpolate command
  refine ⟨hwords, fun launch hear mode s started => ?_⟩
  rw [Command.started_runWith, Command.invocation?, Command.invocation?, hwords]
  cases (words command.toList).map String.ofList <;> rfl

theorem interpolation_keeps_words_prefix :
    let b := ofList [("a", "x"), ("ab", "$a")]
    (∀ name ∈ b.names, Language.isName name.toList = true) ∧
      (∀ name value, b.get? name = some value →
        value ≠ "" ∧ ∀ c ∈ value.toList, isBlank c = false) ∧
      (words (b.interpolate " $a echo$ $ab$a  $abc ").toList).map String.ofList =
        ((words " $a echo$ $ab$a  $abc ".toList).map String.ofList).map b.interpolate := by
  intro b
  have hnames : ∀ name ∈ b.names, Language.isName name.toList = true := by decide
  have hvalues : ∀ name value, b.get? name = some value →
      value ≠ "" ∧ ∀ c ∈ value.toList, isBlank c = false := by
    intro name value h
    have hall : ∀ e ∈ b.entries, e.2 ≠ "" ∧ e.2.toList.all (fun c => !isBlank c) = true := by decide
    obtain ⟨hne, hblank⟩ := hall _ (mem_of_valueOf h)
    exact ⟨hne, by simpa using hblank⟩
  exact ⟨hnames, hvalues, (interpolation_keeps_words b _ hnames hvalues).1⟩

end Bindings

end CommandPipeline
