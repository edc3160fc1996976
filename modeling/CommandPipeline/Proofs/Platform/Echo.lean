import CommandPipeline.Proofs.Command.Settling
import CommandPipeline.Proofs.Platform.Starting
import CommandPipeline.Proofs.Text.Utf8
import CommandPipeline.Proofs.Text.Words

/-! The program `echo`, from the words of a command to what a step captures. Words that are no options are
written with one blank between them, so that a captured `echo` gives the words of its command. -/
namespace CommandPipeline.Platform

open Text (Octets)

/-! ### What is written -/

namespace Tool

/-- A word that `echo` takes for options: letters behind a minus sign. -/
def IsEchoOption (a : Octets) : Prop :=
  ∃ c cs, a.toList = '-' :: c :: cs ∧ ∀ l ∈ c :: cs, l = 'n' ∨ l = 'e' ∨ l = 'E'

/-- Words are text from the first one on that is no option. -/
theorem echoOptions_of_text {args : List Octets} (h : ∀ a ∈ args.head?, ¬ IsEchoOption a) (o : EchoOptions) :
    echoOptions o args = (o, args) := by
  cases args with
  | nil => rfl
  | cons a rest =>
    have ha := h a rfl
    unfold echoOptions
    split
    · next c cs hcs =>
      have hletters : ¬ ((c :: cs).all fun l => l == 'n' || l == 'e' || l == 'E') = true := fun hall =>
        ha ⟨c, cs, hcs, by simpa [or_assoc] using hall⟩
      rw [if_neg hletters]
    · rfl

end Tool

/-- What is delivered to a world with pipes stands in the first one. -/
theorem deliver_withPipes (w : World) (name : Octets) {text : Octets} (htext : text ≠ "") :
    Printout.deliver 1 name { out := text } w.withPipes =
      (.exited 0, { w.withPipes with pipes := #[text, ""] }) := by
  have herr : World.write 2 "" w.withPipes = (none, w.withPipes) := rfl
  have hout : World.write 1 text w.withPipes = (none, { w.withPipes with pipes := #[text, ""] }) := by
    unfold World.write
    rw [if_neg htext]
    show (none, { w.withPipes with pipes := #[("" : Octets) ++ text, ""] }) = _
    rw [String.empty_append]
  show (World.write 2 "" >>= fun _ => World.write 1 text >>= _) w.withPipes = _
  simp only [bind, StateT.bind, herr, hout]
  rfl

/-- Without options `echo` writes its words and ends well. -/
theorem Tool.echo_withPipes {w : World} (hstrict : w.isStrict = false) (name : Octets) {args : List Octets}
    (htext : ∀ a ∈ args.head?, ¬ IsEchoOption a) :
    Tool.echo name args w.withPipes =
      (.exited 0, { w.withPipes with pipes := #[" ".intercalate args ++ "\n", ""] }) := by
  have hplain : w.withPipes.isStrict = false := hstrict
  have hdeliver : Tool.echo name args w.withPipes =
      Printout.deliver 1 name { out := " ".intercalate args ++ "\n" } w.withPipes := by
    unfold Tool.echo
    simp only [get, getThe, MonadStateOf.get, StateT.get, bind, StateT.bind, pure, hplain, Bool.false_and,
      echoOptions_of_text htext]
    rfl
  exact hdeliver.trans (deliver_withPipes w name (by simp))

/-! ### A started `echo` -/

section Echo

variable {w : World} {files : Files} {path : Path} {words : List String}

/-- The launcher finds `echo`, and its words are no options and not too long. -/
structure Echoes (w : World) (files : Files) (path : Path) (words : List String) : Prop where
  located : Locates { w with files } "echo" path
  program : path.getLast? = some "echo"
  lenient : w.isStrict = false
  noOptions : ∀ a ∈ words.head?, ¬ Tool.IsEchoOption (Octets.ofText a)
  noNul : ∀ a ∈ words, Char.ofNat 0 ∉ a.toList
  short : tooLong ("echo" :: words.map Octets.ofText) w.environment = false

/-- A started `echo` writes its words with one blank between them, and changes no file. -/
theorem launcher_echo (h : Echoes w files path words) :
    launcher {} w "echo" words files =
      (.ok { ending := .exited 0, stdout := Text.utf8 (" ".intercalate words ++ "\n"), stderr := [] }, files) := by
  let own : World := { w with files }
  let args := words.map Octets.ofText
  have hname : Octets.ofText "echo" = "echo" := by decide
  have hlocated : Locates own.withPipes "echo" path :=
    ⟨h.located.isSearched, h.located.first, h.located.executable⟩
  have hprogram : (programs (startWithin 999)).lookup (path.getLast?.getD "") = some Tool.echo := by
    rw [h.program]
    rfl
  have htext : ∀ a ∈ args.head?, ¬ Tool.IsEchoOption a := by
    simpa [args, List.head?_map] using h.noOptions
  have hstart : (startWithin programDepth).byName "echo" args own.withPipes = _ :=
    byName_of_locates hlocated h.short hprogram
  have hlenient : own.isStrict = false := h.lenient
  rw [Tool.echo_withPipes hlenient "echo" htext] at hstart
  have hnul : ∀ a ∈ "echo" :: words ++ ({} : LaunchOptions).directory.toList, Char.ofNat 0 ∉ a.toList := by
    have hecho : Char.ofNat 0 ∉ "echo".toList := by decide
    simpa [hecho] using h.noNul
  have hbytes : Octets.toBytes (" ".intercalate args ++ "\n") = Text.utf8 (" ".intercalate words ++ "\n") := by
    have hend : Octets.toBytes "\n" = Text.utf8 "\n" := by decide
    rw [Octets.toBytes_append, Octets.toBytes_intercalate, hend, Text.utf8_append]
  have happly : ({} : LaunchOptions).apply { w with files } = .ok own := rfl
  rw [launcher_of_ok hnul happly (hname ▸ hstart), ← hbytes]
  rfl

/-- A line whose text does not end with a blank loses its end and nothing else. -/
theorem withoutLineEnds_line {s : String} (h : ∀ c ∈ s.toList.getLast?, Text.isBlank c = false) :
    Command.withoutLineEnds (s ++ "\n") = s := by
  have hend : (s ++ "\n").toList = s.toList ++ ['\n'] := String.toList_append
  refine Command.stripped_iff.1 ⟨⟨['\n'], hend, by simp⟩, ⟨fun hlast => ?_, fun hlast => ?_⟩, ?_⟩
  · exact absurd (h _ hlast) (by decide)
  · exact absurd (h _ hlast) (by decide)
  · intro p hp hopen
    rw [hend] at hp
    rcases List.prefix_concat_iff.1 hp with rfl | hp
    · exact absurd List.getLast?_concat hopen.1
    · exact hp

/-- A captured `echo` gives the words of its command with one blank between them, and changes no file. -/
theorem captured_echo {command : String} (hwords : (Text.words command.toList).map String.ofList = "echo" :: words)
    (h : Echoes w files path words) :
    let result := (Command.subprocess (launcher {} w)).call .captured command files
    result.1.reply = .ok (" ".intercalate words) ∧ result.2 = files := by
  have hsolid : ∀ v ∈ words, v.toList ≠ [] ∧ ∀ c ∈ v.toList, Text.isBlank c = false := by
    intro v hv
    have hmem : v ∈ (Text.words command.toList).map String.ofList := hwords ▸ List.mem_cons_of_mem "echo" hv
    obtain ⟨cs, hcs, rfl⟩ := List.mem_map.1 hmem
    rw [String.toList_ofList]
    exact (Text.worded_words command.toList).solid cs hcs
  have hdecode : Text.Utf8.decode (Text.utf8 (" ".intercalate words ++ "\n")) = .ok (" ".intercalate words ++ "\n") :=
    Text.Utf8.decode_eq_ok_iff.2 rfl
  have hline : Command.withoutLineEnds (" ".intercalate words ++ "\n") = " ".intercalate words :=
    withoutLineEnds_line (Text.isBlank_getLast?_intercalate hsolid)
  intro result
  have hresult : result = Command.runWith (launcher {} w) (fun _ s => s) .captured command files := rfl
  rw [hresult, Command.runWith, hwords]
  simp only [launcher_echo h]
  constructor
  · rw [Command.reply_judge_captured rfl, hdecode]
    exact congrArg Except.ok hline
  · generalize (Command.judge _ _ _).records = records
    induction records with
    | nil => rfl
    | cons r rest ih => exact ih

end Echo

end CommandPipeline.Platform
