import CommandPipeline.Proofs.Language.Form
import Mathlib

/-! The grammar of lines. A line that is derived has one reading only, because the name that it begins with
and an equals sign behind that name tell its form. The recognisers take exactly the lines that are derived,
in whatever order the forms of a section are tried. -/
namespace CommandPipeline.Language

open Text

/-! ### Words -/

/-- An ASCII letter, an ASCII digit or an underscore. -/
def IsNameLetter (c : Char) : Prop :=
  'A' ≤ c ∧ c ≤ 'Z' ∨ 'a' ≤ c ∧ c ≤ 'z' ∨ '0' ≤ c ∧ c ≤ '9' ∨ c = '_'

def Identifier (n : String) : Prop := n ≠ "" ∧ ∀ c ∈ n.toList, IsNameLetter c

/-- Blanks that may stand between two words. -/
def Blank (w : String) : Prop := ∀ c ∈ w.toList, isBlank c = true

/-- Blanks that keep two words apart. -/
def Gap (w : String) : Prop := w ≠ "" ∧ Blank w

theorem isNameChar_iff {c : Char} : isNameChar c = true ↔ IsNameLetter c := by
  simp only [isNameChar, Char.isAlphanum, Char.isAlpha, Char.isUpper, Char.isLower, Char.isDigit,
    IsNameLetter, Bool.or_eq_true, Bool.and_eq_true, decide_eq_true_eq, beq_iff_eq, or_assoc]
  rfl

theorem identifier_iff {n : String} : Identifier n ↔ isName n.toList = true := by
  simp only [isName_iff, isNameChar_iff, Identifier, ne_eq, String.toList_eq_nil_iff]

/-! ### Lines -/

/-- What a line says. -/
inductive Reading where
  | definition (name : String)
  | declaration (d : Declaration)
  | step (s : Step)
  | ending (output : Option String)
  deriving DecidableEq

/-- `Derives r line`: by the grammar, the line says `r`. -/
inductive Derives : Reading → String → Prop where
  | definition {n w : String} : Identifier n → Gap w →
      Derives (.definition n) ("pipeline" ++ w ++ n)
  | use {n w : String} : Identifier n → Gap w → Derives (.declaration (.use n)) ("use" ++ w ++ n)
  | rand {n w : String} : Identifier n → Gap w → Derives (.declaration (.rand n)) ("rand" ++ w ++ n)
  | read {n w : String} : Identifier n → Gap w →
      Derives (.declaration (.read ⟨n, ""⟩)) ("read" ++ w ++ n)
  | readDefault {n d w v : String} : Identifier n → '\n' ∉ d.toList → Gap w → Gap v →
      Derives (.declaration (.read ⟨n, d⟩)) ("read" ++ w ++ n ++ v ++ "\"" ++ d ++ "\"")
  | begin : Derives (.declaration .begin) "begin"
  | capture {t c w v : String} : Identifier t → c ≠ "" → '\n' ∉ c.toList → Blank w → Blank v →
      Derives (.step (.capture t c)) (t ++ w ++ "=" ++ v ++ "(" ++ c ++ ")")
  | assign {t s w v : String} : Identifier t → Identifier s → Blank w → Blank v →
      Derives (.step (.assign t s)) (t ++ w ++ "=" ++ v ++ s)
  | exec {c : String} : c ≠ "" → '\n' ∉ c.toList → Derives (.step (.exec c)) ("(" ++ c ++ ")")
  | ending : Derives (.ending none) "end"
  | output {n w : String} : Identifier n → Gap w → Derives (.ending (some n)) ("end" ++ w ++ n)

/-! ### Forms -/

inductive Form where
  | definition
  | use
  | rand
  | read
  | begin
  | capture
  | assign
  | exec
  | ending
  deriving DecidableEq, Repr

def Reading.form : Reading → Form
  | .definition _ => .definition
  | .declaration (.use _) => .use
  | .declaration (.rand _) => .rand
  | .declaration (.read _) => .read
  | .declaration .begin => .begin
  | .step (.capture _ _) => .capture
  | .step (.assign _ _) => .assign
  | .step (.exec _) => .exec
  | .ending _ => .ending

/-- What a line of the form says, found by the recogniser of the form alone. -/
def Form.read? (f : Form) (line : String) : Option Reading :=
  match f with
  | .definition => (definition? line).map .definition
  | .use => (keywordName? "use" line.toList).map fun n => .declaration (.use n)
  | .rand => (keywordName? "rand" line.toList).map fun n => .declaration (.rand n)
  | .read => (Language.read? line).map fun i => .declaration (.read i)
  | .begin => if line = "begin" then some (.declaration .begin) else none
  | .capture => (captureStep? line).map .step
  | .assign => (assignStep? line).map .step
  | .exec => (execStep? line).map .step
  | .ending => (ending? line).map .ending

variable {line keyword n text : String} {w rest : List Char} {r r' : Reading}

/-! ### Recognisers -/

theorem blank_ofList (hw : Blanks w) : Blank (String.ofList w) := by
  rwa [Blank, String.toList_ofList]

theorem gap_ofList (hne : w ≠ []) (hw : Blanks w) : Gap (String.ofList w) :=
  ⟨by simpa using hne, blank_ofList hw⟩

theorem Gap.toList_ne_nil {w : String} (hw : Gap w) : w.toList ≠ [] := by
  simpa using hw.1

theorem keywordName?_iff : keywordName? keyword line.toList = some n ↔
    Identifier n ∧ ∃ w, Gap w ∧ line = keyword ++ w ++ n := by
  rw [keywordName?_eq_some_iff, identifier_iff]
  refine and_congr_right fun _ => ⟨?_, ?_⟩
  · rintro ⟨w, hne, hw, hline⟩
    exact ⟨_, gap_ofList hne hw, by simp [← String.toList_inj, hline]⟩
  · rintro ⟨w, hw, rfl⟩
    exact ⟨w.toList, hw.toList_ne_nil, hw.2, by simp⟩

theorem assignment?_iff : assignment? line.toList = some (n, rest) ↔
    Identifier n ∧ (∃ w v, Blank w ∧ Blank v ∧ line = n ++ w ++ "=" ++ v ++ String.ofList rest) ∧
      ∀ c ∈ rest.head?, isBlank c = false := by
  rw [assignment?_eq_some_iff, identifier_iff]
  refine and_congr_right fun _ => and_congr_left fun _ => ⟨?_, ?_⟩
  · rintro ⟨w, v, hw, hv, hline⟩
    exact ⟨_, _, blank_ofList hw, blank_ofList hv, by simp [← String.toList_inj, hline]⟩
  · rintro ⟨w, v, hw, hv, rfl⟩
    exact ⟨w.toList, v.toList, hw, hv, by simp⟩

theorem assignment?_command {t w v : String} (ht : Identifier t) (hw : Blank w) (hv : Blank v) (c : String) :
    assignment? (t ++ w ++ "=" ++ v ++ "(" ++ c ++ ")").toList = some (t, '(' :: (c.toList ++ [')'])) :=
  assignment?_iff.2 ⟨ht, ⟨w, v, hw, hv, by simp [← String.toList_inj]⟩, by simp; decide⟩

theorem assignment?_name {t u w v : String} (ht : Identifier t) (hu : Identifier u) (hw : Blank w)
    (hv : Blank v) : assignment? (t ++ w ++ "=" ++ v ++ u).toList = some (t, u.toList) :=
  assignment?_iff.2 ⟨ht, ⟨w, v, hw, hv, by rw [String.ofList_toList]⟩,
    isBlank_head?_of_isName (identifier_iff.1 hu)⟩

theorem command?_iff : command? line.toList = some text ↔
    text ≠ "" ∧ '\n' ∉ text.toList ∧ line = "(" ++ text ++ ")" := by
  rw [command?_eq_some_iff, ← @String.toList_inj line]
  simp

/-- An input, without a default or with one behind a second gap. -/
theorem read?_iff {i : Input} : Language.read? line = some i ↔
    Identifier i.name ∧ ∃ w, Gap w ∧ (i.default = "" ∧ line = "read" ++ w ++ i.name ∨
      '\n' ∉ i.default.toList ∧ ∃ v, Gap v ∧
        line = "read" ++ w ++ i.name ++ v ++ "\"" ++ i.default ++ "\"") := by
  have hread : Language.read? line = some i ↔
      ∃ rest, afterKeyword? "read".toList line.toList = some rest ∧ input? rest = some i := by
    unfold Language.read?
    cases afterKeyword? "read".toList line.toList <;> simp
  simp only [hread, afterKeyword?_eq_some_iff, input?_eq_some_iff, ← identifier_iff]
  constructor
  · rintro ⟨rest, ⟨⟨w, hne, hw, hline⟩, -⟩, hname, ⟨rfl, hdefault⟩ | ⟨hd, v, hne', hv, rfl⟩⟩
    · exact ⟨hname, _, gap_ofList hne hw, .inl ⟨hdefault, by simp [← String.toList_inj, hline]⟩⟩
    · exact ⟨hname, _, gap_ofList hne hw, .inr ⟨hd, _, gap_ofList hne' hv,
        by simp [← String.toList_inj, hline]⟩⟩
  · rintro ⟨hname, w, hw, htail⟩
    obtain ⟨hne, -⟩ := isName_iff.1 (identifier_iff.1 hname)
    have hhead : ∀ more, ∀ c ∈ (i.name.toList ++ more).head?, isBlank c = false := by
      intro more c hc
      rw [List.head?_append_of_ne_nil _ hne] at hc
      exact isBlank_head?_of_isName (identifier_iff.1 hname) c hc
    rcases htail with ⟨hdefault, rfl⟩ | ⟨hd, v, hv, rfl⟩
    · refine ⟨i.name.toList ++ [], ⟨⟨w.toList, hw.toList_ne_nil, hw.2, by simp⟩, hhead []⟩, hname, ?_⟩
      exact .inl ⟨List.append_nil _, hdefault⟩
    · refine ⟨i.name.toList ++ (v.toList ++ ('"' :: i.default.toList ++ ['"'])),
        ⟨⟨w.toList, hw.toList_ne_nil, hw.2, by simp⟩, hhead _⟩, hname, ?_⟩
      exact .inr ⟨hd, v.toList, hv.toList_ne_nil, hv.2, (List.append_assoc ..).symm⟩

theorem captureStep?_iff {s : Step} : captureStep? line = some s ↔
    ∃ t c w v, Identifier t ∧ c ≠ "" ∧ '\n' ∉ c.toList ∧ Blank w ∧ Blank v ∧
      line = t ++ w ++ "=" ++ v ++ "(" ++ c ++ ")" ∧ s = .capture t c := by
  constructor
  · intro h
    unfold captureStep? at h
    split at h
    · rename_i t rest hassign
      obtain ⟨c, hc, rfl⟩ := Option.map_eq_some_iff.1 h
      obtain ⟨ht, ⟨w, v, hw, hv, rfl⟩, -⟩ := assignment?_iff.1 hassign
      obtain ⟨hne, hline, rfl⟩ := command?_eq_some_iff.1 hc
      exact ⟨t, c, w, v, ht, hne, hline, hw, hv, by simp [← String.toList_inj], rfl⟩
    · contradiction
  · rintro ⟨t, c, w, v, ht, hne, hline, hw, hv, rfl, rfl⟩
    have hcommand : command? ('(' :: (c.toList ++ [')'])) = some c :=
      command?_eq_some_iff.2 ⟨hne, hline, rfl⟩
    simp only [captureStep?, assignment?_command ht hw hv, hcommand, Option.map_some]

theorem assignStep?_iff {s : Step} : assignStep? line = some s ↔
    ∃ t u w v, Identifier t ∧ Identifier u ∧ Blank w ∧ Blank v ∧
      line = t ++ w ++ "=" ++ v ++ u ∧ s = .assign t u := by
  constructor
  · intro h
    unfold assignStep? at h
    split at h
    · rename_i t rest hassign
      obtain ⟨hu, hs⟩ := Option.ite_none_right_eq_some.1 h
      obtain rfl := Option.some.inj hs
      obtain ⟨ht, ⟨w, v, hw, hv, rfl⟩, -⟩ := assignment?_iff.1 hassign
      refine ⟨t, _, w, v, ht, identifier_iff.2 ?_, hw, hv, rfl, rfl⟩
      rwa [String.toList_ofList]
    · contradiction
  · rintro ⟨t, u, w, v, ht, hu, hw, hv, rfl, rfl⟩
    simp only [assignStep?, assignment?_name ht hu hw hv, identifier_iff.1 hu, if_true,
      String.ofList_toList]

theorem execStep?_iff {s : Step} : execStep? line = some s ↔
    ∃ c, c ≠ "" ∧ '\n' ∉ c.toList ∧ line = "(" ++ c ++ ")" ∧ s = .exec c := by
  simp only [execStep?, Option.map_eq_some_iff, command?_iff, and_assoc, eq_comm (b := s)]

theorem ending?_eq_some_iff {o : Option String} : ending? line = some o ↔
    o = none ∧ line = "end" ∨ ∃ n w, Identifier n ∧ Gap w ∧ line = "end" ++ w ++ n ∧ o = some n := by
  have hoption : ending? line = some o ↔ line = "end" ∧ o = none ∨
      line ≠ "end" ∧ ∃ n, keywordName? "end" line.toList = some n ∧ o = some n := by
    unfold ending?
    split_ifs with hend
    · simp [hend, eq_comm]
    · simp [hend, Option.map_eq_some_iff, eq_comm (b := o)]
  rw [hoption]
  constructor
  · rintro (⟨hline, ho⟩ | ⟨-, n, hn, ho⟩)
    · exact .inl ⟨ho, hline⟩
    · obtain ⟨hname, w, hw, hline⟩ := keywordName?_iff.1 hn
      exact .inr ⟨n, w, hname, hw, hline, ho⟩
  · rintro (⟨ho, hline⟩ | ⟨n, w, hname, hw, hline, ho⟩)
    · exact .inl ⟨hline, ho⟩
    · refine .inr ⟨?_, n, keywordName?_iff.2 ⟨hname, w, hw, hline⟩, ho⟩
      -- the gap makes the line longer than the keyword
      rintro rfl
      have hlength := congrArg (List.length ∘ String.toList) hline
      have hgap := List.length_pos_of_ne_nil hw.toList_ne_nil
      simp only [Function.comp, String.toList_append, List.length_append] at hlength
      omega

/-! ### Forms -/

/-- A recogniser takes lines of its form only. -/
theorem Form.derives_of_read? {f : Form} (h : f.read? line = some r) : r.form = f ∧ Derives r line := by
  cases f with
  | definition =>
    obtain ⟨n, hn, rfl⟩ := Option.map_eq_some_iff.1 h
    obtain ⟨hname, w, hw, rfl⟩ := keywordName?_iff.1 hn
    exact ⟨rfl, .definition hname hw⟩
  | use =>
    obtain ⟨n, hn, rfl⟩ := Option.map_eq_some_iff.1 h
    obtain ⟨hname, w, hw, rfl⟩ := keywordName?_iff.1 hn
    exact ⟨rfl, .use hname hw⟩
  | rand =>
    obtain ⟨n, hn, rfl⟩ := Option.map_eq_some_iff.1 h
    obtain ⟨hname, w, hw, rfl⟩ := keywordName?_iff.1 hn
    exact ⟨rfl, .rand hname hw⟩
  | read =>
    obtain ⟨⟨n, d⟩, hi, rfl⟩ := Option.map_eq_some_iff.1 h
    obtain ⟨hname, w, hw, ⟨rfl, rfl⟩ | ⟨hd, v, hv, rfl⟩⟩ := read?_iff.1 hi
    · exact ⟨rfl, .read hname hw⟩
    · exact ⟨rfl, .readDefault hname hd hw hv⟩
  | begin =>
    obtain ⟨rfl, hr⟩ := Option.ite_none_right_eq_some.1 h
    obtain rfl := Option.some.inj hr
    exact ⟨rfl, .begin⟩
  | capture =>
    obtain ⟨s, hs, rfl⟩ := Option.map_eq_some_iff.1 h
    obtain ⟨t, c, w, v, ht, hne, hline, hw, hv, rfl, rfl⟩ := captureStep?_iff.1 hs
    exact ⟨rfl, .capture ht hne hline hw hv⟩
  | assign =>
    obtain ⟨s, hs, rfl⟩ := Option.map_eq_some_iff.1 h
    obtain ⟨t, u, w, v, ht, hu, hw, hv, rfl, rfl⟩ := assignStep?_iff.1 hs
    exact ⟨rfl, .assign ht hu hw hv⟩
  | exec =>
    obtain ⟨s, hs, rfl⟩ := Option.map_eq_some_iff.1 h
    obtain ⟨c, hne, hline, rfl, rfl⟩ := execStep?_iff.1 hs
    exact ⟨rfl, .exec hne hline⟩
  | ending =>
    obtain ⟨o, ho, rfl⟩ := Option.map_eq_some_iff.1 h
    obtain ⟨rfl, rfl⟩ | ⟨n, w, hname, hw, rfl, rfl⟩ := ending?_eq_some_iff.1 ho
    · exact ⟨rfl, .ending⟩
    · exact ⟨rfl, .output hname hw⟩

/-- A recogniser takes all lines of its form. -/
theorem Derives.read? (h : Derives r line) : r.form.read? line = some r := by
  cases h with
  | @definition n w hname hw =>
    have h : keywordName? "pipeline" ("pipeline" ++ w ++ n).toList = some n :=
      keywordName?_iff.2 ⟨hname, w, hw, rfl⟩
    exact Option.map_eq_some_iff.2 ⟨n, h, rfl⟩
  | @use n w hname hw =>
    exact Option.map_eq_some_iff.2 ⟨n, keywordName?_iff.2 ⟨hname, w, hw, rfl⟩, rfl⟩
  | @rand n w hname hw =>
    exact Option.map_eq_some_iff.2 ⟨n, keywordName?_iff.2 ⟨hname, w, hw, rfl⟩, rfl⟩
  | @read n w hname hw =>
    exact Option.map_eq_some_iff.2 ⟨⟨n, ""⟩, read?_iff.2 ⟨hname, w, hw, .inl ⟨rfl, rfl⟩⟩, rfl⟩
  | @readDefault n d w v hname hd hw hv =>
    exact Option.map_eq_some_iff.2 ⟨⟨n, d⟩, read?_iff.2 ⟨hname, w, hw, .inr ⟨hd, v, hv, rfl⟩⟩, rfl⟩
  | begin => rfl
  | @capture t c w v ht hne hline hw hv =>
    have h := captureStep?_iff.2 ⟨t, c, w, v, ht, hne, hline, hw, hv, rfl, rfl⟩
    exact Option.map_eq_some_iff.2 ⟨_, h, rfl⟩
  | @assign t u w v ht hu hw hv =>
    have h := assignStep?_iff.2 ⟨t, u, w, v, ht, hu, hw, hv, rfl, rfl⟩
    exact Option.map_eq_some_iff.2 ⟨_, h, rfl⟩
  | @exec c hne hline =>
    exact Option.map_eq_some_iff.2 ⟨_, execStep?_iff.2 ⟨c, hne, hline, rfl, rfl⟩, rfl⟩
  | ending => rfl
  | @output n w hname hw =>
    exact Option.map_eq_some_iff.2 ⟨some n, ending?_eq_some_iff.2 (.inr ⟨n, w, hname, hw, rfl, rfl⟩), rfl⟩

/-! ### What tells a form -/

/-- What tells the form of a line: the name at its front, or else the equals sign behind that name, with a
parenthesis if that follows. -/
def lead (cs : List Char) : List Char :=
  match assignment? cs with
  | some (_, '(' :: _) => ['=', '(']
  | some _ => ['=']
  | none => cs.takeWhile isNameChar

def Form.lead : Form → String
  | .definition => "pipeline"
  | .use => "use"
  | .rand => "rand"
  | .read => "read"
  | .begin => "begin"
  | .capture => "=("
  | .assign => "="
  | .exec => ""
  | .ending => "end"

theorem Form.lead_injective : Function.Injective Form.lead := by
  intro f g h
  cases f <;> cases g <;> simp [Form.lead] at h ⊢

/-- A line that is made of a keyword and further words leads with the keyword: what stands behind the
keyword is a blank, and what stands behind the blanks is no equals sign. -/
theorem lead_keyword {k w rest : List Char} (hk : k.all isNameChar = true) (hw : Blanks w)
    (hrest : ∀ c ∈ rest.head?, isNameChar c = true) (hcut : w = [] → rest = []) :
    lead (k ++ w ++ rest) = k := by
  have hhead : ∀ c ∈ (w ++ rest).head?, isNameChar c = false := by
    cases w with
    | nil => simp [hcut rfl]
    | cons c w => simpa using isNameChar_eq_false_of_isBlank (hw c (by simp))
  obtain ⟨htake, hdrop⟩ :=
    takeWhile_dropWhile_iff.2 ⟨List.append_assoc k w rest, List.all_eq_true.1 hk, hhead⟩
  have hbehind : (w ++ rest).dropWhile isBlank = rest :=
    dropWhile_eq_iff.2 ⟨⟨w, hw, rfl⟩, fun c hc => isBlank_eq_false_of_isNameChar (hrest c hc)⟩
  have hassign : assignment? (k ++ w ++ rest) = none := by
    simp only [assignment?, hdrop, hbehind]
    split_ifs
    · rfl
    · split
      · exact absurd (hrest '=' rfl) (by decide)
      · rfl
  rw [lead, hassign, htake]

theorem lead_keywordName {n w : String} (hn : Identifier n) (hw : Gap w)
    (hk : keyword.toList.all isNameChar = true) : lead (keyword ++ w ++ n).toList = keyword.toList := by
  rw [String.toList_append, String.toList_append]
  refine lead_keyword hk hw.2 (fun c hc => ?_) fun h => absurd h hw.toList_ne_nil
  exact (isName_iff.1 (identifier_iff.1 hn)).2 c (List.mem_of_mem_head? hc)

theorem Derives.lead_eq (h : Derives r line) : lead line.toList = r.form.lead.toList := by
  cases h with
  | definition hname hw => exact lead_keywordName hname hw (by decide)
  | use hname hw => exact lead_keywordName hname hw (by decide)
  | rand hname hw => exact lead_keywordName hname hw (by decide)
  | read hname hw => exact lead_keywordName hname hw (by decide)
  | @readDefault n d w v hname hd hw hv =>
    obtain ⟨hne, hchars⟩ := isName_iff.1 (identifier_iff.1 hname)
    have hline : ("read" ++ w ++ n ++ v ++ "\"" ++ d ++ "\"").toList =
        "read".toList ++ w.toList ++ (n.toList ++ (v ++ "\"" ++ d ++ "\"").toList) := by simp
    rw [hline]
    refine lead_keyword (by decide) hw.2 (fun c hc => ?_) fun h => absurd h hw.toList_ne_nil
    rw [List.head?_append_of_ne_nil _ hne] at hc
    exact hchars c (List.mem_of_mem_head? hc)
  | begin => rfl
  | @capture t c w v ht hne hline hw hv =>
    rw [lead, assignment?_command ht hw hv]
    simp [Reading.form, Form.lead]
  | @assign t u w v ht hu hw hv =>
    obtain ⟨hne, hchars⟩ := isName_iff.1 (identifier_iff.1 hu)
    obtain ⟨a, name, hu'⟩ := List.exists_cons_of_ne_nil hne
    have ha : a ≠ '(' := by
      rintro rfl
      exact absurd (hchars '(' (by simp [hu'])) (by decide)
    rw [lead, assignment?_name ht hu hw hv, hu']
    simp [ha, Reading.form, Form.lead]
  | @exec c hne hline =>
    have hopen : ("(" ++ c ++ ")").toList = '(' :: (c.toList ++ [')']) := by simp
    rw [hopen, lead, assignment?_parenthesis]
    rfl
  | ending => rfl
  | output hname hw => exact lead_keywordName hname hw (by decide)

theorem Derives.form_unique (h : Derives r line) (h' : Derives r' line) : r.form = r'.form :=
  Form.lead_injective (String.toList_inj.1 (h.lead_eq.symm.trans h'.lead_eq))

/-- A line is read in one way at most. -/
theorem Derives.unique (h : Derives r line) (h' : Derives r' line) : r = r' := by
  have hread := h.read?
  rw [h.form_unique h', h'.read?] at hread
  exact (Option.some.inj hread).symm

theorem Form.read?_eq_some_iff {f : Form} : f.read? line = some r ↔ r.form = f ∧ Derives r line :=
  ⟨derives_of_read?, fun ⟨hform, h⟩ => hform ▸ h.read?⟩

/-! ### Orders -/

/-- What a line says if forms are tried one after another. -/
def firstReading (order : List Form) (line : String) : Option Reading :=
  order.findSome? (·.read? line)

/-- The first form that takes a line is the only one that does. -/
theorem firstReading_eq_some_iff {order : List Form} :
    firstReading order line = some r ↔ r.form ∈ order ∧ Derives r line := by
  constructor
  · intro h
    obtain ⟨f, hf, hr⟩ := List.exists_of_findSome?_eq_some h
    obtain ⟨rfl, hderives⟩ := Form.read?_eq_some_iff.1 hr
    exact ⟨hf, hderives⟩
  · rintro ⟨hmem, hderives⟩
    have hsome : (firstReading order line).isSome = true :=
      List.findSome?_isSome_iff.2 ⟨r.form, hmem, by rw [hderives.read?]; rfl⟩
    obtain ⟨r', hr'⟩ := Option.isSome_iff_exists.1 hsome
    obtain ⟨f, -, hr⟩ := List.exists_of_findSome?_eq_some hr'
    rw [hr', (Form.read?_eq_some_iff.1 hr).2.unique hderives]

theorem firstReading_perm {order order' : List Form} (h : order.Perm order') (line : String) :
    firstReading order line = firstReading order' line := by
  ext r
  simp only [firstReading_eq_some_iff, h.mem_iff]

theorem map_declaration? (line : String) :
    (declaration? line).map .declaration = firstReading [.begin, .use, .rand, .read] line := by
  simp only [firstReading, declaration?, List.findSome?_cons, List.findSome?_nil, Form.read?]
  split_ifs
  · rfl
  · cases keywordName? "use" line.toList with
    | some n => rfl
    | none =>
      cases keywordName? "rand" line.toList with
      | some n => rfl
      | none => cases Language.read? line <;> rfl

theorem map_step? (line : String) :
    (step? line).map .step = firstReading [.capture, .assign, .exec] line := by
  simp only [firstReading, step?, List.findSome?_cons, List.findSome?_nil, Form.read?]
  cases captureStep? line with
  | some s => rfl
  | none =>
    cases assignStep? line with
    | some s => rfl
    | none => cases execStep? line <;> rfl

/-! ### Sections -/

theorem map_eq_some_mk {α β : Type} {mk : α → β} (hmk : Function.Injective mk) {x : Option α} {a : α} :
    x.map mk = some (mk a) ↔ x = some a :=
  (Option.map_injective hmk).eq_iff (b := some a)

theorem definition?_iff : definition? line = some n ↔ Derives (.definition n) line := by
  have h : Form.definition.read? line = some (.definition n) ↔ definition? line = some n :=
    map_eq_some_mk fun _ _ => Reading.definition.inj
  rw [← h, Form.read?_eq_some_iff]
  exact and_iff_right rfl

theorem declaration?_iff {d : Declaration} : declaration? line = some d ↔ Derives (.declaration d) line := by
  rw [← map_eq_some_mk fun _ _ => Reading.declaration.inj, map_declaration?, firstReading_eq_some_iff]
  exact and_iff_right (by cases d <;> simp [Reading.form])

theorem step?_iff {s : Step} : step? line = some s ↔ Derives (.step s) line := by
  rw [← map_eq_some_mk fun _ _ => Reading.step.inj, map_step?, firstReading_eq_some_iff]
  exact and_iff_right (by cases s <;> simp [Reading.form])

theorem ending?_iff {o : Option String} : ending? line = some o ↔ Derives (.ending o) line := by
  have h : Form.ending.read? line = some (.ending o) ↔ ending? line = some o :=
    map_eq_some_mk fun _ _ => Reading.ending.inj
  rw [← h, Form.read?_eq_some_iff]
  exact and_iff_right rfl

/-- The recogniser of each section takes exactly the lines that the grammar derives for it, and what it
captures is all that the line can say. -/
theorem recognisers_read_grammar (line : String) :
    (∀ n, definition? line = some n ↔ Derives (.definition n) line) ∧
    (∀ d, declaration? line = some d ↔ Derives (.declaration d) line) ∧
    (∀ s, step? line = some s ↔ Derives (.step s) line) ∧
    (∀ o, ending? line = some o ↔ Derives (.ending o) line) ∧
    ∀ r r', Derives r line → Derives r' line → r = r' :=
  ⟨fun _ => definition?_iff, fun _ => declaration?_iff, fun _ => step?_iff, fun _ => ending?_iff,
    fun _ _ => Derives.unique⟩

/-- The last parenthesis closes, and a command may hold what looks like an assignment. -/
theorem recognisers_read_grammar_parentheses :
    let line := "a\u00a0=(b = (c) = d))"
    let s : Step := .capture "a" "b = (c) = d)"
    Derives (.step s) line ∧ ∀ r, Derives r line → r = .step s := by
  intro line s
  obtain ⟨-, -, hstep, -, hunique⟩ := recognisers_read_grammar line
  have hderives : Derives (.step s) line := (hstep s).1 (by decide)
  exact ⟨hderives, fun r hr => hunique r _ hr hderives⟩

end CommandPipeline.Language
