import CommandPipeline.Language.LineForm
import CommandPipeline.Proofs.Text.Cut
import Mathlib.Data.List.Basic

/-! The line forms, read as equations. Each recogniser takes a line exactly if the line is put together
from what it captures, with the marks and blanks of the form between. -/
namespace CommandPipeline.Language

open Text

/-! ### Characters -/

def Blanks (cs : List Char) : Prop := ∀ c ∈ cs, isBlank c = true

theorem blanks_space : Blanks [' '] := List.forall_mem_singleton.2 (by decide)

theorem toNat_of_isNameChar {c : Char} (h : isNameChar c = true) :
    65 ≤ c.toNat ∧ c.toNat ≤ 90 ∨ 97 ≤ c.toNat ∧ c.toNat ≤ 122 ∨
      48 ≤ c.toNat ∧ c.toNat ≤ 57 ∨ c.toNat = 95 := by
  delta isNameChar Char.isAlphanum Char.isAlpha Char.isUpper Char.isLower Char.isDigit at h
  simp only [Bool.or_eq_true, Bool.and_eq_true, decide_eq_true_eq, beq_iff_eq,
    UInt32.le_iff_toNat_le, ge_iff_le] at h
  rcases h with ((h | h) | h) | rfl
  · exact .inl h
  · exact .inr (.inl h)
  · exact .inr (.inr (.inl h))
  · simp

theorem isNameChar_eq_false_of_isBlank {c : Char} (h : isBlank c = true) : isNameChar c = false := by
  by_contra hn
  have hc := toNat_of_isNameChar (by simpa using hn)
  simp only [isBlank, blankRanges, List.any_cons, List.any_nil, Bool.or_eq_true, Bool.and_eq_true,
    decide_eq_true_eq, Bool.or_false] at h
  omega

theorem isBlank_eq_false_of_isNameChar {c : Char} (h : isNameChar c = true) : isBlank c = false := by
  by_contra hb
  rw [isNameChar_eq_false_of_isBlank (by simpa using hb)] at h
  contradiction

theorem isName_iff {cs : List Char} : isName cs = true ↔ cs ≠ [] ∧ ∀ c ∈ cs, isNameChar c = true := by
  simp [isName]

/-- A name begins with no blank. -/
theorem isBlank_head?_of_isName {cs : List Char} (h : isName cs = true) :
    ∀ c ∈ cs.head?, isBlank c = false := fun c hc =>
  isBlank_eq_false_of_isNameChar ((isName_iff.1 h).2 c (List.mem_of_mem_head? hc))

/-! ### Parts of a line -/

variable {cs rest : List Char} {keyword line text name : String}

theorem afterKeyword?_eq_some_iff {k : List Char} :
    afterKeyword? k cs = some rest ↔
      (∃ w, w ≠ [] ∧ Blanks w ∧ cs = k ++ w ++ rest) ∧ ∀ c ∈ rest.head?, isBlank c = false := by
  constructor
  · intro h
    unfold afterKeyword? at h
    split at h
    · rename_i c behind hk
      split_ifs at h with hc
      obtain ⟨⟨v, hv, rfl⟩, hrest⟩ := dropWhile_eq_iff.1 (Option.some.inj h)
      refine ⟨⟨c :: v, by simp, List.forall_mem_cons.2 ⟨hc, hv⟩, ?_⟩, hrest⟩
      rw [← List.isPrefixOf?_eq_some_iff_append_eq.1 hk]
      simp
    · contradiction
  · rintro ⟨⟨w, hw, hb, rfl⟩, hrest⟩
    obtain ⟨c, v, rfl⟩ := List.exists_cons_of_ne_nil hw
    obtain ⟨hc, hv⟩ := List.forall_mem_cons.1 hb
    have hk : k.isPrefixOf? (k ++ (c :: v) ++ rest) = some (c :: (v ++ rest)) :=
      List.isPrefixOf?_eq_some_iff_append_eq.2 (by simp)
    rw [afterKeyword?, hk]
    simp only [hc, if_true]
    rw [dropWhile_eq_iff.2 ⟨⟨v, hv, rfl⟩, hrest⟩]

theorem keywordName?_eq_some_iff :
    keywordName? keyword cs = some name ↔
      isName name.toList = true ∧ ∃ w, w ≠ [] ∧ Blanks w ∧ cs = keyword.toList ++ w ++ name.toList := by
  constructor
  · intro h
    unfold keywordName? at h
    split at h
    · rename_i rest hrest
      split_ifs at h with hname
      obtain rfl := Option.some.inj h
      rw [String.toList_ofList]
      exact ⟨hname, (afterKeyword?_eq_some_iff.1 hrest).1⟩
    · contradiction
  · rintro ⟨hname, hcs⟩
    rw [keywordName?, afterKeyword?_eq_some_iff.2 ⟨hcs, isBlank_head?_of_isName hname⟩]
    simp [hname]

theorem beforeLast?_eq_some_iff {close : Char} :
    beforeLast? close cs = some rest ↔ cs = rest ++ [close] := by
  unfold beforeLast?
  split_ifs with h
  · obtain ⟨front, rfl⟩ := List.getLast?_eq_some_iff.1 h
    simp
  · simp only [false_iff]
    rintro rfl
    simp at h

theorem onOneLine_iff : onOneLine cs = true ↔ '\n' ∉ cs := by
  simp only [onOneLine, List.all_eq_true, bne_iff_ne]
  exact ⟨fun h hn => h _ hn rfl, fun h c hc he => h (he ▸ hc)⟩

theorem command?_eq_some_iff :
    command? cs = some text ↔
      text ≠ "" ∧ '\n' ∉ text.toList ∧ cs = '(' :: text.toList ++ [')'] := by
  constructor
  · intro h
    unfold command? at h
    split at h
    · split at h
      · rename_i c hc
        split_ifs at h with hok
        obtain rfl := Option.some.inj h
        simp only [Bool.and_eq_true, onOneLine_iff, Bool.not_eq_true', List.isEmpty_eq_false_iff] at hok
        rw [beforeLast?_eq_some_iff.1 hc, String.toList_ofList]
        exact ⟨by simpa [String.ofList_eq_empty_iff] using hok.1, hok.2, rfl⟩
      · contradiction
    · contradiction
  · rintro ⟨hne, hline, rfl⟩
    have hne' : text.toList ≠ [] := by simpa using hne
    rw [List.cons_append, command?, beforeLast?_eq_some_iff.2 rfl]
    simp [hne', onOneLine_iff.2 hline]

theorem quoted?_eq_some_iff :
    quoted? cs = some text ↔ '\n' ∉ text.toList ∧ cs = '"' :: text.toList ++ ['"'] := by
  constructor
  · intro h
    unfold quoted? at h
    split at h
    · split at h
      · rename_i d hd
        split_ifs at h with hok
        obtain rfl := Option.some.inj h
        rw [beforeLast?_eq_some_iff.1 hd, String.toList_ofList]
        exact ⟨onOneLine_iff.1 hok, rfl⟩
      · contradiction
    · contradiction
  · rintro ⟨hline, rfl⟩
    rw [List.cons_append, quoted?, beforeLast?_eq_some_iff.2 rfl]
    simp [onOneLine_iff.2 hline]

/-- Every text begins with a name, which may be empty, and goes on with no character of a name. -/
theorem exists_name_append (cs : List Char) :
    ∃ n r, cs = n ++ r ∧ (∀ c ∈ n, isNameChar c = true) ∧ (∀ c ∈ r.head?, isNameChar c = false) ∧
      cs.takeWhile isNameChar = n ∧ cs.dropWhile isNameChar = r := by
  obtain ⟨hcs, hn, hr⟩ := (takeWhile_dropWhile_iff (p := isNameChar) (l := cs)).1 ⟨rfl, rfl⟩
  exact ⟨_, _, hcs, hn, hr, rfl, rfl⟩

theorem assignment?_eq_some_iff :
    assignment? cs = some (name, rest) ↔
      isName name.toList = true ∧
      (∃ w v, Blanks w ∧ Blanks v ∧ cs = name.toList ++ w ++ '=' :: (v ++ rest)) ∧
      ∀ c ∈ rest.head?, isBlank c = false := by
  constructor
  · intro h
    obtain ⟨n, r, rfl, hn, -, htake, hdrop⟩ := exists_name_append cs
    simp only [assignment?, htake, hdrop] at h
    split_ifs at h with hempty
    split at h
    · rename_i behind hbehind
      obtain ⟨rfl, hrest⟩ := Prod.mk.inj (Option.some.inj h)
      obtain ⟨⟨w, hw, rfl⟩, -⟩ := dropWhile_eq_iff.1 hbehind
      obtain ⟨⟨v, hv, rfl⟩, hhead⟩ := dropWhile_eq_iff.1 hrest
      rw [String.toList_ofList]
      exact ⟨isName_iff.2 ⟨by simpa using hempty, hn⟩, ⟨w, v, hw, hv, by simp⟩, hhead⟩
    · contradiction
  · rintro ⟨hname, ⟨w, v, hw, hv, rfl⟩, hrest⟩
    obtain ⟨hne, hn⟩ := isName_iff.1 hname
    have hhead : ∀ c ∈ (w ++ '=' :: (v ++ rest)).head?, isNameChar c = false := by
      cases w with
      | nil => simp; decide
      | cons c w => simpa using isNameChar_eq_false_of_isBlank (hw c (by simp))
    obtain ⟨htake, hdrop⟩ := takeWhile_dropWhile_iff.2 ⟨List.append_assoc .., hn, hhead⟩
    have hequals : (w ++ '=' :: (v ++ rest)).dropWhile isBlank = '=' :: (v ++ rest) :=
      dropWhile_eq_iff.2 ⟨⟨w, hw, rfl⟩, by simp; decide⟩
    have hbehind : (v ++ rest).dropWhile isBlank = rest := dropWhile_eq_iff.2 ⟨⟨v, hv, rfl⟩, hrest⟩
    simp only [assignment?, htake, hdrop, hequals, hbehind]
    simp [hne]

theorem input?_eq_some_iff {i : Input} :
    input? cs = some i ↔
      isName i.name.toList = true ∧ (cs = i.name.toList ∧ i.default = "" ∨
        '\n' ∉ i.default.toList ∧ ∃ w, w ≠ [] ∧ Blanks w ∧
          cs = i.name.toList ++ w ++ ('"' :: i.default.toList ++ ['"'])) := by
  constructor
  · intro h
    obtain ⟨n, r, rfl, hn, -, htake, hdrop⟩ := exists_name_append cs
    simp only [input?, htake, hdrop] at h
    split_ifs at h with hempty
    have hname : isName n = true := isName_iff.2 ⟨by simpa using hempty, hn⟩
    split at h
    · obtain rfl := Option.some.inj h
      simpa using hname
    · rename_i c behind
      split_ifs at h with hc
      obtain ⟨d, hd, rfl⟩ := Option.map_eq_some_iff.1 h
      obtain ⟨hline, hquoted⟩ := quoted?_eq_some_iff.1 hd
      obtain ⟨⟨w, hw, rfl⟩, -⟩ := dropWhile_eq_iff.1 hquoted
      simp only [String.toList_ofList]
      exact ⟨hname, .inr ⟨hline, c :: w, by simp, List.forall_mem_cons.2 ⟨hc, hw⟩, by simp⟩⟩
  · rintro ⟨hname, hcs⟩
    obtain ⟨hne, hn⟩ := isName_iff.1 hname
    rcases hcs with ⟨rfl, hdefault⟩ | ⟨hline, w, hw, hb, rfl⟩
    · obtain ⟨htake, hdrop⟩ := takeWhile_dropWhile_iff.2
        ⟨(List.append_nil i.name.toList).symm, hn, by simp⟩
      simp only [input?, htake, hdrop]
      simp [hne, ← hdefault]
    · obtain ⟨c, v, rfl⟩ := List.exists_cons_of_ne_nil hw
      obtain ⟨hc, hv⟩ := List.forall_mem_cons.1 hb
      have hquoted : quoted? ('"' :: i.default.toList ++ ['"']) = some i.default :=
        quoted?_eq_some_iff.2 ⟨hline, rfl⟩
      have hhead : ∀ a ∈ ('"' :: i.default.toList ++ ['"']).head?, isBlank a = false := by
        simp
        decide
      generalize '"' :: i.default.toList ++ ['"'] = q at hquoted hhead
      have hbehind : (v ++ q).dropWhile isBlank = q := dropWhile_eq_iff.2 ⟨⟨v, hv, rfl⟩, hhead⟩
      obtain ⟨htake, hdrop⟩ := takeWhile_dropWhile_iff.2
        ⟨List.append_assoc i.name.toList (c :: v) q, hn,
          by simpa using isNameChar_eq_false_of_isBlank hc⟩
      rw [List.cons_append] at hdrop
      simp only [input?, htake, hdrop, hc, hbehind, hquoted]
      simp [hne]

/-! ### Steps -/

def IsCommand (command : String) : Prop := command ≠ "" ∧ '\n' ∉ command.toList

/-- A step that a line can hold: its names are names, and its command is a text on one line. -/
def WritableStep : Step → Prop
  | .assign target source => isName target.toList = true ∧ isName source.toList = true
  | .capture target command => isName target.toList = true ∧ IsCommand command
  | .exec command => IsCommand command

theorem isCommand_of_command? (h : command? cs = some text) : IsCommand text :=
  ⟨(command?_eq_some_iff.1 h).1, (command?_eq_some_iff.1 h).2.1⟩

/-- A line with an equals sign is a capture or an assignment by what follows the sign, and any other step
is a command alone. -/
theorem step?_cases {s : Step} (h : step? line = some s) :
    (∃ target command rest, assignment? line.toList = some (target, rest) ∧
      command? rest = some command ∧ s = .capture target command) ∨
    (∃ target rest, assignment? line.toList = some (target, rest) ∧ isName rest = true ∧
      s = .assign target (String.ofList rest)) ∨
    ∃ command, command? line.toList = some command ∧ s = .exec command := by
  unfold step? at h
  split at h
  · rename_i hcapture
    obtain rfl := Option.some.inj h
    unfold captureStep? at hcapture
    split at hcapture
    · rename_i target rest hassign
      obtain ⟨command, hcommand, rfl⟩ := Option.map_eq_some_iff.1 hcapture
      exact .inl ⟨target, command, rest, hassign, hcommand, rfl⟩
    · contradiction
  · split at h
    · rename_i hassignStep
      obtain rfl := Option.some.inj h
      unfold assignStep? at hassignStep
      split at hassignStep
      · rename_i target rest hassign
        split_ifs at hassignStep with hsource
        obtain rfl := Option.some.inj hassignStep
        exact .inr (.inl ⟨target, rest, hassign, hsource, rfl⟩)
      · contradiction
    · obtain ⟨command, hcommand, rfl⟩ := Option.map_eq_some_iff.1 h
      exact .inr (.inr ⟨command, hcommand, rfl⟩)

theorem writable_of_step? {s : Step} (h : step? line = some s) : WritableStep s := by
  obtain ⟨target, command, rest, hassign, hcommand, rfl⟩ | ⟨target, rest, hassign, hsource, rfl⟩ |
    ⟨command, hcommand, rfl⟩ := step?_cases h
  · exact ⟨(assignment?_eq_some_iff.1 hassign).1, isCommand_of_command? hcommand⟩
  · exact ⟨(assignment?_eq_some_iff.1 hassign).1, by rwa [String.toList_ofList]⟩
  · exact isCommand_of_command? hcommand

/-- What stands in parentheses is no assignment. -/
theorem assignment?_parenthesis (cs : List Char) : assignment? ('(' :: cs) = none := by
  have hp : isNameChar '(' = false := by decide
  simp [assignment?, hp]

theorem command?_of_isName (h : isName cs = true) : command? cs = none := by
  cases hc : command? cs with
  | none => rfl
  | some command =>
    obtain ⟨-, -, rfl⟩ := command?_eq_some_iff.1 hc
    exact absurd ((isName_iff.1 h).2 '(' (by simp)) (by decide)

theorem assignment?_render {target : String} (ht : isName target.toList = true) (rest : List Char)
    (hrest : ∀ c ∈ rest.head?, isBlank c = false) :
    assignment? (target.toList ++ [' ', '=', ' '] ++ rest) = some (target, rest) :=
  assignment?_eq_some_iff.2 ⟨ht, ⟨[' '], [' '], blanks_space, blanks_space, by simp⟩, hrest⟩

theorem toList_render (s : Step) :
    s.render.toList = match s with
      | .assign target source => target.toList ++ [' ', '=', ' '] ++ source.toList
      | .capture target command =>
        target.toList ++ [' ', '=', ' '] ++ ('(' :: command.toList ++ [')'])
      | .exec command => '(' :: command.toList ++ [')'] := by
  cases s <;> simp [Step.render]

theorem step?_render {s : Step} (h : WritableStep s) : step? s.render = some s := by
  have hrender := toList_render s
  cases s with
  | assign target source =>
    have hassign := assignment?_render h.1 _ (isBlank_head?_of_isName h.2)
    simp only [step?, captureStep?, assignStep?, hrender, hassign, command?_of_isName h.2, h.2,
      Option.map_none, if_true, String.ofList_toList]
  | capture target command =>
    have hcommand : command? ('(' :: command.toList ++ [')']) = some command :=
      command?_eq_some_iff.2 ⟨h.2.1, h.2.2, rfl⟩
    have hassign := assignment?_render h.1 ('(' :: command.toList ++ [')']) (by simp; decide)
    simp only [step?, captureStep?, hrender, hassign, hcommand]
    rfl
  | exec command =>
    have hcommand : command? ('(' :: command.toList ++ [')']) = some command :=
      command?_eq_some_iff.2 ⟨h.1, h.2, rfl⟩
    have hassign := assignment?_parenthesis (command.toList ++ [')'])
    rw [← List.cons_append] at hassign
    simp only [step?, captureStep?, assignStep?, execStep?, hrender, hassign, hcommand]
    rfl

/-- A closing line has no mark in it. -/
theorem isNameChar_or_isBlank_of_ending? {output : Option String} (h : ending? line = some output) :
    ∀ c ∈ line.toList, isNameChar c = true ∨ isBlank c = true := by
  have hkeyword : ∀ c ∈ "end".toList, isNameChar c = true := List.all_eq_true.1 (by decide)
  unfold ending? at h
  split_ifs at h with hend
  · subst hend
    exact fun c hc => .inl (hkeyword c hc)
  · obtain ⟨name, hname, rfl⟩ := Option.map_eq_some_iff.1 h
    obtain ⟨hisName, w, -, hw, hline⟩ := keywordName?_eq_some_iff.1 hname
    intro c hc
    simp only [hline, List.mem_append] at hc
    rcases hc with (hc | hc) | hc
    · exact .inl (hkeyword c hc)
    · exact .inr (hw c hc)
    · exact .inl ((isName_iff.1 hisName).2 c hc)

/-- A step is never read as a closing line: it has an equals sign or a parenthesis. -/
theorem ending?_of_step? {s : Step} (h : step? line = some s) : ending? line = none := by
  cases hending : ending? line with
  | none => rfl
  | some output =>
    have hchars := isNameChar_or_isBlank_of_ending? hending
    have hequals {target : String} {rest : List Char}
        (hassign : assignment? line.toList = some (target, rest)) : '=' ∈ line.toList := by
      obtain ⟨-, ⟨w, v, -, -, hline⟩, -⟩ := assignment?_eq_some_iff.1 hassign
      simp [hline]
    obtain ⟨_, _, _, hassign, -⟩ | ⟨_, _, hassign, -⟩ | ⟨_, hcommand, -⟩ := step?_cases h
    · exact absurd (hchars '=' (hequals hassign)) (by decide)
    · exact absurd (hchars '=' (hequals hassign)) (by decide)
    · obtain ⟨-, -, hline⟩ := command?_eq_some_iff.1 hcommand
      exact absurd (hchars '(' (by simp [hline])) (by decide)

end CommandPipeline.Language
