import CommandPipeline.Proofs.Language.Form
import CommandPipeline.Proofs.Language.Outline
import CommandPipeline.Proofs.Language.Plain

/-! Documents written as pipelines. A document that was read has names where a pipeline needs names, and
its commands and defaults lie on one line. Each line that it is written as is therefore plain and read as
what it was written for, and the text is read as the same document. First values are not written. -/
namespace CommandPipeline.Language

open Text

/-! ### Writing -/

/-- A keyword and the name behind it. -/
def keywordLine (keyword name : String) : String := keyword ++ " " ++ name

def inputLine (i : Input) : String :=
  if i.default = "" then keywordLine "read" i.name
  else keywordLine "read" i.name ++ " \"" ++ i.default ++ "\""

def closingLine : Option String → String
  | none => "end"
  | some name => keywordLine "end" name

/-- The lines of a document, which declare the names `uses`. -/
def documentLines (d : Document) (uses : List String) : List String :=
  keywordLine "pipeline" d.name ::
    (d.inputs.map inputLine ++ uses.map (keywordLine "use") ++
      "begin" :: (d.steps.map Step.render ++ [closingLine d.output]))

def written (d : Document) (uses : List String) : String := unlines (documentLines d uses)

/-! ### What can be written -/

def WritableInput (i : Input) : Prop := isName i.name.toList = true ∧ '\n' ∉ i.default.toList

def WritableDeclaration : Declaration → Prop
  | .use name | .rand name => isName name.toList = true
  | .read i => WritableInput i
  | .begin => True

structure WritableDocument (d : Document) : Prop where
  name : isName d.name.toList = true
  inputs : ∀ i ∈ d.inputs, WritableInput i
  uses : ∀ name ∈ d.declarations.names, isName name.toList = true
  steps : ∀ s ∈ d.steps, WritableStep s
  output : ∀ name ∈ d.output, isName name.toList = true

theorem isName_of_keywordName? {keyword name : String} {cs : List Char}
    (h : keywordName? keyword cs = some name) : isName name.toList = true :=
  (keywordName?_eq_some_iff.1 h).1

theorem isName_of_ending? {line name : String} (h : ending? line = some (some name)) :
    isName name.toList = true := by
  unfold ending? at h
  split_ifs at h
  · simp at h
  · obtain ⟨_, hname, heq⟩ := Option.map_eq_some_iff.1 h
    obtain rfl := Option.some.inj heq
    exact isName_of_keywordName? hname

theorem writable_of_read? {line : String} {i : Input} (h : read? line = some i) : WritableInput i := by
  unfold read? at h
  split at h
  · obtain ⟨hname, ⟨-, hdefault⟩ | ⟨hline, -⟩⟩ := input?_eq_some_iff.1 h
    · exact ⟨hname, by simp [hdefault]⟩
    · exact ⟨hname, hline⟩
  · contradiction

theorem writable_of_declaration? {line : String} {a : Declaration} (h : declaration? line = some a) :
    WritableDeclaration a := by
  unfold declaration? at h
  split_ifs at h
  · obtain rfl := Option.some.inj h
    trivial
  · split at h
    · rename_i name hname
      obtain rfl := Option.some.inj h
      exact isName_of_keywordName? hname
    · split at h
      · rename_i name hname
        obtain rfl := Option.some.inj h
        exact isName_of_keywordName? hname
      · obtain ⟨i, hi, rfl⟩ := Option.map_eq_some_iff.1 h
        exact writable_of_read? hi

theorem Outline.Denotes.writable {tokens : TokenSource} {o : Outline} {d : Document}
    (h : o.Denotes tokens d) : WritableDocument d where
  name := isName_of_keywordName? h.name
  inputs i hi := by
    rw [h.inputs] at hi
    obtain ⟨a, ha, hinput⟩ := List.mem_filterMap.1 hi
    obtain ⟨line, -, hline⟩ := List.mem_filterMap.1 ha
    have hwritable := writable_of_declaration? hline
    cases a <;> simp_all [Declaration.input?, WritableDeclaration]
  uses name hname := by
    obtain ⟨a, ha, hdeclares⟩ := (h.names name).1 hname
    obtain ⟨line, -, hline⟩ := List.mem_filterMap.1 ha
    have hwritable := writable_of_declaration? hline
    cases a <;> simp_all [Declaration.declares?, WritableDeclaration]
  steps s hs := by
    have hmem : some s ∈ o.steps.map step? := by
      rw [h.steps]
      exact List.mem_map_of_mem hs
    obtain ⟨line, -, hline⟩ := List.mem_map.1 hmem
    exact writable_of_step? hline
  output name hname := by
    obtain ⟨line, -, hline⟩ := Option.bind_eq_some_iff.1 h.output
    rw [Option.mem_def.1 hname] at hline
    exact isName_of_ending? hline

/-! ### Written lines are plain -/

theorem solid_of_isName {cs : List Char} (h : isName cs = true) : Solid cs := by
  obtain ⟨hne, hname⟩ := isName_iff.1 h
  have edge : ∀ c ∈ cs, isBlank c = false ∧ c ≠ ';' := by
    intro c hc
    refine ⟨isBlank_eq_false_of_isNameChar (hname c hc), ?_⟩
    rintro rfl
    exact absurd (hname _ hc) (by decide)
  exact ⟨⟨_, List.head?_eq_some_head hne, edge _ (List.head_mem hne)⟩,
    _, List.getLast?_eq_some_getLast hne, (edge _ (List.getLast_mem hne)).1⟩

theorem newline_notMem_of_isName {cs : List Char} (h : isName cs = true) : '\n' ∉ cs :=
  fun hmem => absurd ((isName_iff.1 h).2 _ hmem) (by decide)

theorem toList_keywordLine (keyword name : String) :
    (keywordLine keyword name).toList = keyword.toList ++ [' '] ++ name.toList := by
  simp [keywordLine]

theorem isPlain_keywordLine {keyword name : String} (hkeyword : isName keyword.toList = true)
    (hname : isName name.toList = true) : IsPlain (keywordLine keyword name) := by
  refine Solid.isPlain ?_ ?_ <;> rw [toList_keywordLine]
  · exact (solid_of_isName hkeyword).append [' '] (solid_of_isName hname)
  · simp [newline_notMem_of_isName hkeyword, newline_notMem_of_isName hname]

theorem isPlain_inputLine {i : Input} (h : WritableInput i) : IsPlain (inputLine i) := by
  unfold inputLine
  split_ifs with hdefault
  · exact isPlain_keywordLine (by decide) h.1
  · have htext : (keywordLine "read" i.name ++ " \"" ++ i.default ++ "\"").toList =
        "read".toList ++ ([' '] ++ i.name.toList ++ [' ', '"'] ++ i.default.toList) ++ ['"'] := by
      simp [toList_keywordLine]
    refine Solid.isPlain ?_ ?_ <;> rw [htext]
    · exact (solid_of_isName (by decide)).append _ (solid_singleton (by decide) (by decide))
    · simp [newline_notMem_of_isName h.1, h.2]

theorem isPlain_closingLine {output : Option String}
    (h : ∀ name ∈ output, isName name.toList = true) : IsPlain (closingLine output) := by
  cases output with
  | none => exact ⟨by decide, by decide, by decide⟩
  | some name => exact isPlain_keywordLine (by decide) (h name rfl)

theorem solid_parenthesis (cs : List Char) : Solid ('(' :: cs ++ [')']) :=
  (solid_singleton (by decide) (by decide)).append cs (solid_singleton (by decide) (by decide))

theorem isPlain_render {s : Step} (h : WritableStep s) : IsPlain s.render := by
  refine Solid.isPlain ?_ ?_ <;> rw [toList_render]
  · cases s with
    | assign target source => exact (solid_of_isName h.1).append _ (solid_of_isName h.2)
    | capture target command => exact (solid_of_isName h.1).append _ (solid_parenthesis _)
    | exec command => exact solid_parenthesis _
  · cases s with
    | assign target source => simp [newline_notMem_of_isName h.1, newline_notMem_of_isName h.2]
    | capture target command => simp [newline_notMem_of_isName h.1, h.2.2]
    | exec command => simp [h.2]

/-! ### Written lines are read as what they were written for -/

theorem keywordName?_keywordLine {keyword name : String} (h : isName name.toList = true) :
    keywordName? keyword (keywordLine keyword name).toList = some name :=
  keywordName?_eq_some_iff.2 ⟨h, [' '], by simp, blanks_space, toList_keywordLine keyword name⟩

theorem declaration?_use {name : String} (h : isName name.toList = true) :
    declaration? (keywordLine "use" name) = some (.use name) := by
  have hbegin : keywordLine "use" name ≠ "begin" := by
    intro heq
    have := congrArg String.toList heq
    simp [toList_keywordLine] at this
  rw [declaration?, if_neg hbegin, keywordName?_keywordLine h]

theorem ending?_closingLine {output : Option String}
    (h : ∀ name ∈ output, isName name.toList = true) : ending? (closingLine output) = some output := by
  cases output with
  | none => rfl
  | some name =>
    have hend : keywordLine "end" name ≠ "end" := by
      intro heq
      have := congrArg String.toList heq
      simp [toList_keywordLine] at this
    rw [closingLine, ending?, if_neg hend, keywordName?_keywordLine (h name rfl), Option.map_some]

theorem keywordName?_eq_none {keyword : String} {cs : List Char} (h : ¬ keyword.toList <+: cs) :
    keywordName? keyword cs = none := by
  refine Option.eq_none_iff_forall_ne_some.2 fun name hname => h ?_
  obtain ⟨-, w, -, -, hcs⟩ := keywordName?_eq_some_iff.1 hname
  exact ⟨w ++ name.toList, by rw [hcs, List.append_assoc]⟩

theorem read?_inputLine {i : Input} (h : WritableInput i) : read? (inputLine i) = some i := by
  have read {rest : List Char} (htext : (inputLine i).toList = "read".toList ++ [' '] ++ rest)
      (hrest : ∀ c ∈ rest.head?, isBlank c = false) (hi : input? rest = some i) :
      read? (inputLine i) = some i := by
    have hbehind : afterKeyword? "read".toList (inputLine i).toList = some rest :=
      afterKeyword?_eq_some_iff.2 ⟨⟨[' '], by simp, blanks_space, htext⟩, hrest⟩
    rw [read?, hbehind]
    exact hi
  by_cases hdefault : i.default = ""
  · refine read ?_ (isBlank_head?_of_isName h.1) (input?_eq_some_iff.2 ⟨h.1, .inl ⟨rfl, hdefault⟩⟩)
    rw [inputLine, if_pos hdefault, toList_keywordLine]
  · have hhead : ∀ c ∈ (i.name.toList ++ [' '] ++ ('"' :: i.default.toList ++ ['"'])).head?,
        isBlank c = false := by
      rw [List.append_assoc, List.head?_append_of_ne_nil _ (isName_iff.1 h.1).1]
      exact isBlank_head?_of_isName h.1
    refine read ?_ hhead
      (input?_eq_some_iff.2 ⟨h.1, .inr ⟨h.2, [' '], by simp, blanks_space, rfl⟩⟩)
    rw [inputLine, if_neg hdefault]
    simp [toList_keywordLine]

theorem declaration?_inputLine {i : Input} (h : WritableInput i) :
    declaration? (inputLine i) = some (.read i) := by
  obtain ⟨rest, hrest⟩ : ∃ rest, (inputLine i).toList = "read ".toList ++ rest := by
    unfold inputLine
    split_ifs
    · exact ⟨i.name.toList, by simp [toList_keywordLine]⟩
    · exact ⟨i.name.toList ++ [' ', '"'] ++ i.default.toList ++ ['"'], by simp [toList_keywordLine]⟩
  have hbegin : inputLine i ≠ "begin" := by
    intro heq
    rw [heq] at hrest
    simp at hrest
  have huse : keywordName? "use" (inputLine i).toList = none := keywordName?_eq_none (by simp [hrest])
  have hrand : keywordName? "rand" (inputLine i).toList = none := keywordName?_eq_none (by simp [hrest])
  rw [declaration?, if_neg hbegin, huse, hrand, read?_inputLine h, Option.map_some]

/-! ### Written documents are read -/

/-- A reader that takes each written text for what it means takes all of them so. -/
theorem filterMap_map_of_read {α β γ : Type} {read : β → Option γ} {write : α → β} {mean : α → γ}
    {l : List α} (h : ∀ a ∈ l, read (write a) = some (mean a)) :
    (l.map write).filterMap read = l.map mean := by
  induction l with
  | nil => rfl
  | cons a l ih =>
    obtain ⟨ha, hl⟩ := List.forall_mem_cons.1 h
    simp [ha, ih hl]

namespace WritableDocument

variable {d : Document} {uses : List String}

/-- The parts of the text that a document is written as. -/
def outline (h : WritableDocument d) (huses : uses.Perm d.declarations.names) : Outline where
  heading := keywordLine "pipeline" d.name
  declarations := d.inputs.map inputLine ++ uses.map (keywordLine "use")
  steps := d.steps.map Step.render
  endings := [closingLine d.output]
  heading_ok := ⟨d.name, keywordName?_keywordLine h.name⟩
  declarations_ok := by
    intro text ht
    rcases List.mem_append.1 ht with ht | ht
    · obtain ⟨i, hi, rfl⟩ := List.mem_map.1 ht
      exact ⟨.read i, declaration?_inputLine (h.inputs i hi), nofun⟩
    · obtain ⟨name, hname, rfl⟩ := List.mem_map.1 ht
      exact ⟨.use name, declaration?_use (h.uses name (huses.mem_iff.1 hname)), nofun⟩
  steps_ok := by
    intro text ht
    obtain ⟨s, hs, rfl⟩ := List.mem_map.1 ht
    have hread := step?_render (h.steps s hs)
    exact ⟨⟨s, hread⟩, ending?_of_step? hread⟩
  endings_ok := List.forall_mem_singleton.2 ⟨d.output, ending?_closingLine h.output⟩
  endings_ne_nil := by simp

theorem declared_outline (h : WritableDocument d) (huses : uses.Perm d.declarations.names) :
    (h.outline huses).declared = d.inputs.map .read ++ uses.map .use := by
  have hinputs : (d.inputs.map inputLine).filterMap declaration? = d.inputs.map .read :=
    filterMap_map_of_read fun i hi => declaration?_inputLine (h.inputs i hi)
  have hnames : (uses.map (keywordLine "use")).filterMap declaration? = uses.map .use :=
    filterMap_map_of_read fun name hname => declaration?_use (h.uses name (huses.mem_iff.1 hname))
  rw [Outline.declared, outline, List.filterMap_append, hinputs, hnames]

theorem exists_declared_outline_iff (h : WritableDocument d) (huses : uses.Perm d.declarations.names)
    (name : String) :
    (∃ a ∈ (h.outline huses).declared, a.declares? = some name) ↔ name ∈ d.declarations.names := by
  rw [declared_outline, ← huses.mem_iff]
  simp [or_and_right, exists_or, Declaration.declares?]

/-- No written declaration draws a token. -/
theorem lastGives_outline_iff (tokens : TokenSource) (h : WritableDocument d)
    (huses : uses.Perm d.declarations.names) (name value : String) :
    LastGives tokens (h.outline huses).declared name value ↔
      name ∈ d.declarations.names ∧ value = "" := by
  have empty {value : String} (hlast : LastGives tokens (h.outline huses).declared name value) :
      value = "" := by
    obtain ⟨before, a, after, hds, hdeclares, hvalue, -⟩ := hlast
    have ha : a ∈ d.inputs.map Declaration.read ++ uses.map .use := by
      rw [← declared_outline h huses, hds]
      simp
    rcases List.mem_append.1 ha with ha | ha
    · obtain ⟨i, -, rfl⟩ := List.mem_map.1 ha
      contradiction
    · obtain ⟨other, -, rfl⟩ := List.mem_map.1 ha
      exact (Option.some.inj hvalue).symm
  rw [← exists_declared_outline_iff h huses, ← exists_lastGives_iff tokens]
  constructor
  · exact fun hlast => ⟨⟨value, hlast⟩, empty hlast⟩
  · rintro ⟨⟨other, hlast⟩, rfl⟩
    rwa [empty hlast] at hlast

theorem denotes_outline (tokens : TokenSource) (h : WritableDocument d)
    (huses : uses.Perm d.declarations.names)
    (hvalues : ∀ name value, d.declarations.get? name = some value → value = "") :
    (h.outline huses).Denotes tokens d where
  name := keywordName?_keywordLine h.name
  inputs := by
    have hinputs : (d.inputs.map Declaration.read).filterMap Declaration.input? = d.inputs.map id :=
      filterMap_map_of_read fun _ _ => rfl
    have hnames : (uses.map Declaration.use).filterMap Declaration.input? = [] := by
      simp [Declaration.input?]
    rw [declared_outline, List.filterMap_append, hinputs, hnames, List.append_nil, List.map_id]
  names name := (exists_declared_outline_iff h huses name).symm
  values name value := by
    rw [lastGives_outline_iff, Bindings.mem_names_iff, Bindings.contains, Option.isSome_iff_exists]
    constructor
    · exact fun hget => ⟨⟨value, hget⟩, hvalues name value hget⟩
    · rintro ⟨⟨other, hget⟩, rfl⟩
      rwa [hvalues name other hget] at hget
  steps := by
    rw [outline, List.map_map]
    exact List.map_congr_left fun s hs => step?_render (h.steps s hs)
  output := ending?_closingLine h.output

theorem isPlain_of_mem_lines (h : WritableDocument d) (huses : uses.Perm d.declarations.names) :
    ∀ text ∈ documentLines d uses, IsPlain text := by
  intro text ht
  simp only [documentLines, List.mem_cons, List.mem_append, List.mem_map, List.not_mem_nil,
    or_false] at ht
  rcases ht with rfl | (⟨i, hi, rfl⟩ | ⟨name, hname, rfl⟩) | rfl | ⟨s, hs, rfl⟩ | rfl
  · exact isPlain_keywordLine (by decide) h.name
  · exact isPlain_inputLine (h.inputs i hi)
  · exact isPlain_keywordLine (by decide) (h.uses name (huses.mem_iff.1 hname))
  · exact ⟨by decide, by decide, by decide⟩
  · exact isPlain_render (h.steps s hs)
  · exact isPlain_closingLine h.output

end WritableDocument

/-- A document that is read is what some outline denotes. -/
theorem exists_denotes {tokens : TokenSource} {source : String} {d : Document}
    (h : parse tokens source = .ok d) : ∃ o : Outline, o.Denotes tokens d := by
  obtain ⟨e, he, rfl⟩ := (parse_eq_ok_iff tokens source d).1 h
  obtain ⟨o, ho⟩ := exists_outline he
  obtain ⟨f, hf, hdenotes⟩ := o.exists_follow tokens
  rw [ho, he] at hf
  obtain ⟨-, rfl⟩ := Prod.mk.inj (Option.some.inj hf)
  exact ⟨o, hdenotes⟩

theorem writable_of_parse {tokens : TokenSource} {source : String} {d : Document}
    (h : parse tokens source = .ok d) : WritableDocument d := by
  obtain ⟨o, ho⟩ := exists_denotes h
  exact ho.writable

theorem parse_of_denotes {tokens : TokenSource} {source : String} {d : Document} {o : Outline}
    (ho : o.lines = significantTexts source) (hd : o.Denotes tokens d) : parse tokens source = .ok d := by
  obtain ⟨f, hf, hdenotes⟩ := o.exists_follow tokens
  exact (parse_eq_ok_iff tokens source d).2 ⟨f, ho ▸ hf, hdenotes.unique hd⟩

/-- A document that was read and whose variables start empty is written as a text that is read as this
document. Every step that was read is written as a line that is read as this step and closes no steps. -/
theorem parse_written :
    (∀ tokens source d, parse tokens source = .ok d →
      (∀ name value, d.declarations.get? name = some value → value = "") →
      ∀ uses, uses.Perm d.declarations.names → ∀ other, parse other (written d uses) = .ok d) ∧
    ∀ line s, step? line = some s → step? s.render = some s ∧ ending? s.render = none ∧
      significantLines s.render = [⟨1, s.render⟩] := by
  constructor
  · intro tokens source d hparse hvalues uses huses other
    obtain ⟨o, ho⟩ := exists_denotes hparse
    have hlines : (ho.writable.outline huses).lines = significantTexts (written d uses) :=
      (map_text_significantLines_unlines (ho.writable.isPlain_of_mem_lines huses)).symm
    -- Tokens play no part: the outline draws none, and denotes the document for any source of them.
    exact parse_of_denotes hlines (ho.writable.denotes_outline other huses hvalues)
  · intro line s hs
    have hwritable := writable_of_step? hs
    have hread := step?_render hwritable
    exact ⟨hread, ending?_of_step? hread, significantLines_of_isPlain (isPlain_render hwritable)⟩

theorem parse_written_quotes :
    ∃ source d, parse { letter := fun _ _ => 0 } source = .ok d ∧
      written d ["b"] =
        "pipeline p\nread a \"say \"hi\"\"\nuse b\nbegin\nend = ( echo $a))\nb = end\nend b\n" ∧
      parse { letter := fun _ _ => 0 } (written d ["b"]) = .ok d := by
  have hparse : parse { letter := fun _ _ => 0 }
      "; text\n pipeline p\nread  a \"say \"hi\"\"\nuse b\nbegin\nend=( echo $a)) \n\nb =end\nend b" = .ok
        { name := "p"
          inputs := [⟨"a", "say \"hi\""⟩]
          declarations := .ofList [("b", "")]
          steps := [.capture "end" " echo $a)", .assign "b" "end"]
          output := some "b" } :=
    (parse_eq_ok_iff _ _ _).2 ⟨⟨_, 0⟩, rfl, rfl⟩
  have hvalues : ∀ name value,
      (Bindings.ofList [("b", "")]).get? name = some value → value = "" := by
    intro name value h
    obtain ⟨-, rfl⟩ := Prod.mk.inj (List.mem_singleton.1 (Bindings.mem_of_valueOf h))
    rfl
  exact ⟨_, _, hparse, by decide, parse_written.1 _ _ _ hparse hvalues ["b"] (.refl _) _⟩

end CommandPipeline.Language
