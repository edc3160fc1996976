import CommandPipeline.Proofs.Language.Form
import CommandPipeline.Proofs.Language.Outline
import CommandPipeline.Proofs.Language.Plain

/-! Why a text is not read, and where. Lines are viable if a pipeline can begin with them. A text whose
lines are viable but no pipeline stops too early, and its error says before which mark. Every other error
is at the first line with which the lines are viable no more, and names the section of that line. -/
namespace CommandPipeline.Language

/-! ### The beginning of a pipeline -/

theorem isStep_iff {text : String} : IsStep text ↔ ∃ s, step? text = some s :=
  ⟨fun h => h.1, fun ⟨s, hs⟩ => ⟨⟨s, hs⟩, ending?_of_step? hs⟩⟩

/-- `Begun place texts`: the texts are the first lines of a pipeline up to the section `place`, to which
the next line belongs. -/
inductive Begun : Section → List String → Prop where
  | definition : Begun .definition []
  | declaration {heading name : String} {declarations : List String} :
      definition? heading = some name → (∀ text ∈ declarations, IsDeclared text) →
      Begun .declaration (heading :: declarations)
  | pipeline {heading name : String} {declarations steps : List String} :
      definition? heading = some name → (∀ text ∈ declarations, IsDeclared text) →
      (∀ text ∈ steps, ∃ s, step? text = some s) →
      Begun .pipeline (heading :: (declarations ++ "begin" :: steps))
  | ending {heading name : String} {declarations steps endings : List String} :
      definition? heading = some name → (∀ text ∈ declarations, IsDeclared text) →
      (∀ text ∈ steps, ∃ s, step? text = some s) →
      (∀ text ∈ endings, IsEnding text) → endings ≠ [] →
      Begun .ending (heading :: (declarations ++ "begin" :: (steps ++ endings)))

section Begun

variable (tokens : TokenSource) {place : Section} {texts : List String}

theorem followAll?_heading {heading name : String} (h : definition? heading = some name)
    (texts : List String) :
    followAll? tokens (.definition, {}) (heading :: texts) =
      followAll? tokens (.declaration, Draft.entitle {} name) texts := by
  rw [followAll?_cons]
  simp [follow?, h]

theorem followAll?_begin (d : Draft) {declarations : List String}
    (h : ∀ text ∈ declarations, IsDeclared text) (texts : List String) :
    followAll? tokens (.declaration, d) (declarations ++ "begin" :: texts) =
      followAll? tokens (.pipeline, d.declareAll tokens (declarations.filterMap declaration?)) texts := by
  rw [followAll?_append, followAll?_declarations tokens d h, Option.bind_some, followAll?_cons,
    follow?_begin tokens _ (declaration?_eq_begin_iff.2 rfl), Option.bind_some]

/-- The machine can be in a section behind some lines exactly if a pipeline begins with them. -/
theorem begun_iff :
    Begun place texts ↔ ∃ d, followAll? tokens (.definition, {}) texts = some (place, d) := by
  constructor
  · intro h
    cases h with
    | definition => exact ⟨_, rfl⟩
    | declaration hheading hdeclarations =>
      rw [followAll?_heading tokens hheading]
      exact ⟨_, followAll?_declarations tokens _ hdeclarations⟩
    | pipeline hheading hdeclarations hsteps =>
      rw [followAll?_heading tokens hheading, followAll?_begin tokens _ hdeclarations]
      exact ⟨_, followAll?_steps tokens _ fun text ht => isStep_iff.2 (hsteps text ht)⟩
    | ending hheading hdeclarations hsteps hendings hne =>
      rw [followAll?_heading tokens hheading, followAll?_begin tokens _ hdeclarations,
        followAll?_append, followAll?_steps tokens _ fun text ht => isStep_iff.2 (hsteps text ht),
        Option.bind_some]
      obtain ⟨_, -, hlead⟩ := followAll?_endings tokens _ hne hendings
      exact ⟨_, hlead⟩
  · rintro ⟨d, h⟩
    cases texts with
    | nil =>
      obtain ⟨rfl, -⟩ := Prod.mk.inj (Option.some.inj h)
      exact .definition
    | cons heading texts =>
      rw [followAll?_cons] at h
      obtain ⟨n, hn, h⟩ := Option.bind_eq_some_iff.1 h
      obtain ⟨name, hname, rfl⟩ := Option.map_eq_some_iff.1 hn
      rcases declared_of_followAll? h with ⟨rfl, hdeclarations⟩ |
        ⟨declarations, rest, f, rfl, hdeclarations, h⟩
      · exact .declaration hname hdeclarations
      · obtain ⟨steps, endings, rfl, hsteps, hendings, rfl⟩ := steps_of_followAll? h
        split_ifs with hne
        · subst hne
          rw [List.append_nil]
          exact .pipeline hname hdeclarations fun text ht => (hsteps text ht).1
        · exact .ending hname hdeclarations (fun text ht => (hsteps text ht).1) hendings hne

end Begun

/-! ### The section of a line -/

/-- The section that a line belongs to, by the lines before it. -/
def sectionBehind (before : List String) : Section :=
  if before = [] then .definition
  else if "begin" ∉ before then .declaration
  else if ∃ text ∈ before.dropWhile (· != "begin"), (ending? text).isSome then .ending
  else .pipeline

theorem ne_begin_of_definition? {heading name : String} (h : definition? heading = some name) :
    heading ≠ "begin" := by
  rintro rfl
  have hbegin : definition? "begin" = none := by decide
  rw [hbegin] at h
  contradiction

/-- The first line `begin` is the one that ends the declarations. -/
theorem dropWhile_ne_begin {heading name : String} {declarations : List String}
    (hheading : definition? heading = some name) (hdeclarations : ∀ text ∈ declarations, IsDeclared text)
    (rest : List String) :
    (heading :: (declarations ++ "begin" :: rest)).dropWhile (· != "begin") = "begin" :: rest := by
  have hfront : ∀ text ∈ heading :: declarations, (text != "begin") = true := by
    intro text ht
    rcases List.mem_cons.1 ht with rfl | ht
    · simpa using ne_begin_of_definition? hheading
    · simpa using (hdeclarations text ht).ne_begin
  rw [← List.cons_append, List.dropWhile_append_of_pos hfront]
  rfl

theorem Begun.sectionBehind {place : Section} {texts : List String} (h : Begun place texts) :
    sectionBehind texts = place := by
  have hbegin : ending? "begin" = none := by decide
  cases h with
  | definition => rfl
  | @declaration heading name declarations hheading hdeclarations =>
    have hnot : "begin" ∉ heading :: declarations := by
      intro hmem
      rcases List.mem_cons.1 hmem with heq | hmem
      · exact ne_begin_of_definition? hheading heq.symm
      · exact (hdeclarations _ hmem).ne_begin rfl
    rw [Language.sectionBehind, if_neg (by simp), if_pos hnot]
  | @pipeline heading name declarations steps hheading hdeclarations hsteps =>
    have hnone : ¬ ∃ text ∈ "begin" :: steps, (ending? text).isSome := by
      rintro ⟨text, ht, hsome⟩
      rcases List.mem_cons.1 ht with rfl | ht
      · simp [hbegin] at hsome
      · simp [(isStep_iff.2 (hsteps text ht)).2] at hsome
    rw [Language.sectionBehind, if_neg (by simp), if_neg (by simp),
      dropWhile_ne_begin hheading hdeclarations, if_neg hnone]
  | @ending heading name declarations steps endings hheading hdeclarations hsteps hendings hne =>
    have hsome : ∃ text ∈ "begin" :: (steps ++ endings), (ending? text).isSome := by
      obtain ⟨text, ht⟩ := List.exists_mem_of_ne_nil endings hne
      obtain ⟨output, ho⟩ := hendings text ht
      exact ⟨text, by simp [ht], by simp [ho]⟩
    rw [Language.sectionBehind, if_neg (by simp), if_neg (by simp),
      dropWhile_ne_begin hheading hdeclarations, if_pos hsome]

/-! ### Viable lines -/

/-- A pipeline that is read can begin with these lines. -/
def Viable (tokens : TokenSource) (texts : List String) : Prop :=
  ∃ source d, parse tokens source = .ok d ∧ texts <+: significantTexts source

/-- Lines that end a pipeline from a section on. -/
def completion : Section → List String
  | .definition => ["pipeline p", "begin", "end"]
  | .declaration => ["begin", "end"]
  | .pipeline => ["end"]
  | .ending => []

theorem isPlain_of_mem_completion {place : Section} {text : String} (h : text ∈ completion place) :
    IsPlain text := by
  have hmem : text ∈ completion .definition := by
    cases place <;> simp_all [completion]
  simp only [completion, List.mem_cons, List.not_mem_nil, or_false] at hmem
  rcases hmem with rfl | rfl | rfl <;> exact ⟨by decide, by decide, by decide⟩

theorem exists_followAll?_completion (tokens : TokenSource) (place : Section) (d : Draft) :
    ∃ e, followAll? tokens (place, d) (completion place) = some (.ending, e) := by
  cases place <;> exact ⟨_, rfl⟩

theorem viable_iff (tokens : TokenSource) {texts : List String} (h : ∀ text ∈ texts, IsPlain text) :
    Viable tokens texts ↔ ∃ place, Begun place texts := by
  constructor
  · rintro ⟨source, d, hd, rest, hrest⟩
    obtain ⟨e, he, -⟩ := (parse_eq_ok_iff tokens source d).1 hd
    rw [← hrest, followAll?_append] at he
    obtain ⟨⟨place, f⟩, hf, -⟩ := Option.bind_eq_some_iff.1 he
    exact ⟨place, (begun_iff tokens).2 ⟨f, hf⟩⟩
  -- The lines that end a pipeline from the section on make a pipeline of the texts.
  · rintro ⟨place, hbegun⟩
    obtain ⟨d, hd⟩ := (begun_iff tokens).1 hbegun
    obtain ⟨e, he⟩ := exists_followAll?_completion tokens place d
    have hplain : ∀ text ∈ texts ++ completion place, IsPlain text := by
      intro text ht
      rcases List.mem_append.1 ht with ht | ht
      · exact h text ht
      · exact isPlain_of_mem_completion ht
    have htexts : significantTexts (Text.unlines (texts ++ completion place)) =
        texts ++ completion place := map_text_significantLines_unlines hplain
    refine ⟨Text.unlines (texts ++ completion place), e.document,
      (parse_eq_ok_iff tokens _ _).2 ⟨e, ?_, rfl⟩, completion place, htexts.symm⟩
    rw [htexts, followAll?_append, hd, Option.bind_some, he]

/-! ### Errors -/

/-- A run that fails stops in a section before the last, or at a line that its section has no form for. -/
theorem run_eq_error_iff (tokens : TokenSource) (m : Machine) (e : ParseError) :
    (m.run tokens).value = .error e ↔
      (∃ place d, followAll? tokens (m.place, m.draft) (m.rest.map Line.text) = some (place, d) ∧
        Machine.finish ⟨place, d, []⟩ = .error e) ∨
      ∃ before line after place d, m.rest = before ++ line :: after ∧
        followAll? tokens (m.place, m.draft) (before.map Line.text) = some (place, d) ∧
        follow? tokens (place, d) line.text = none ∧ e = malformedLine place line := by
  obtain ⟨place, d, lines⟩ := m
  induction lines generalizing place d with
  | nil =>
    rw [Machine.run_nil, List.map_nil, followAll?_nil]
    simp
  | cons line rest ih =>
    rw [Machine.run_cons, List.map_cons, followAll?_cons]
    cases h : follow? tokens (place, d) line.text with
    | none =>
      constructor
      · intro he
        exact .inr ⟨[], line, rest, place, d, rfl, rfl, h, (Except.error.inj he).symm⟩
      · rintro (⟨_, _, hlead, -⟩ | ⟨before, other, after, _, _, hlines, hlead, -, rfl⟩)
        · simp at hlead
        · cases before with
          | nil =>
            obtain ⟨rfl, rfl⟩ := Prod.mk.inj (Option.some.inj hlead)
            rw [(List.cons.inj hlines).1]
          | cons first before =>
            rw [List.map_cons, followAll?_cons, ← (List.cons.inj hlines).1, h] at hlead
            contradiction
    | some n =>
      refine (ih n.1 n.2).trans (or_congr Iff.rfl ⟨?_, ?_⟩)
      · rintro ⟨before, other, after, next, f, rfl, hlead, hnone, rfl⟩
        refine ⟨line :: before, other, after, next, f, rfl, ?_, hnone, rfl⟩
        rwa [List.map_cons, followAll?_cons, h]
      · rintro ⟨before, other, after, next, f, hlines, hlead, hnone, rfl⟩
        cases before with
        | nil =>
          obtain ⟨rfl, rfl⟩ := Prod.mk.inj (Option.some.inj hlead)
          rw [← (List.cons.inj hlines).1, h] at hnone
          contradiction
        | cons first before =>
          obtain ⟨rfl, rfl⟩ := List.cons.inj hlines
          rw [List.map_cons, followAll?_cons, h] at hlead
          exact ⟨before, other, after, next, f, rfl, hlead, hnone, rfl⟩

/-- `Faulty tokens source place line`: the lines of the text are viable up to `line`, but not with it, and
it belongs to the section `place`. -/
def Faulty (tokens : TokenSource) (source : String) (place : Section) (line : Line) : Prop :=
  ∃ before after, significantLines source = before ++ line :: after ∧
    Viable tokens (before.map Line.text) ∧ ¬ Viable tokens (before.map Line.text ++ [line.text]) ∧
    place = sectionBehind (before.map Line.text)

section Parsing

variable (tokens : TokenSource) (source : String)

/-- The line with which lines are viable no more is the one that the machine has no form for. -/
theorem faulty_iff (place : Section) (line : Line) :
    Faulty tokens source place line ↔ ∃ before after d, significantLines source = before ++ line :: after ∧
      followAll? tokens (.definition, {}) (before.map Line.text) = some (place, d) ∧
      follow? tokens (place, d) line.text = none := by
  have viable : ∀ {before after}, significantLines source = before ++ after →
      (Viable tokens (before.map Line.text) ↔ ∃ place, Begun place (before.map Line.text)) := by
    intro before after hlines
    refine viable_iff tokens fun text ht => ?_
    obtain ⟨l, hl, rfl⟩ := List.mem_map.1 ht
    exact isPlain_of_mem_significantLines (hlines ▸ List.mem_append_left after hl)
  have reach : ∀ {before after place d}, significantLines source = before ++ line :: after →
      followAll? tokens (.definition, {}) (before.map Line.text) = some (place, d) →
      (Viable tokens (before.map Line.text ++ [line.text]) ↔
        ∃ n, follow? tokens (place, d) line.text = some n) := by
    intro before after place d hlines hlead
    rw [List.append_cons] at hlines
    rw [← List.map_singleton, ← List.map_append, viable hlines]
    simp only [begun_iff tokens, List.map_append, List.map_singleton, followAll?_append, hlead,
      Option.bind_some, followAll?_cons, followAll?_nil, Option.bind_fun_some, Prod.exists]
  constructor
  · rintro ⟨before, after, hlines, hviable, hnot, rfl⟩
    obtain ⟨place, hbegun⟩ := (viable hlines).1 hviable
    obtain ⟨d, hlead⟩ := (begun_iff tokens).1 hbegun
    rw [hbegun.sectionBehind]
    refine ⟨before, after, d, hlines, hlead, Option.eq_none_iff_forall_ne_some.2 fun n hn => ?_⟩
    exact hnot ((reach hlines hlead).2 ⟨n, hn⟩)
  · rintro ⟨before, after, d, hlines, hlead, hnone⟩
    have hbegun : Begun place (before.map Line.text) := (begun_iff tokens).2 ⟨d, hlead⟩
    refine ⟨before, after, hlines, (viable hlines).2 ⟨place, hbegun⟩, ?_, hbegun.sectionBehind.symm⟩
    simp [reach hlines hlead, hnone]

/-- A text is not read if it stops before its last section, or at a faulty line. -/
theorem parse_eq_error_iff (e : ParseError) :
    parse tokens source = .error e ↔
      Begun .definition (significantTexts source) ∧ e = .empty ∨
      Begun .declaration (significantTexts source) ∧ e = .missingBegin ∨
      Begun .pipeline (significantTexts source) ∧ e = .missingEnd ∨
      ∃ place line, Faulty tokens source place line ∧ e = malformedLine place line := by
  refine (run_eq_error_iff tokens { rest := significantLines source } e).trans ?_
  simp only [faulty_iff, begun_iff tokens]
  constructor
  · rintro (⟨place, d, hlead, hfinish⟩ | ⟨before, line, after, place, d, hlines, hlead, hnone, rfl⟩)
    · cases place with
      | definition => exact .inl ⟨⟨d, hlead⟩, (Except.error.inj hfinish).symm⟩
      | declaration => exact .inr (.inl ⟨⟨d, hlead⟩, (Except.error.inj hfinish).symm⟩)
      | pipeline => exact .inr (.inr (.inl ⟨⟨d, hlead⟩, (Except.error.inj hfinish).symm⟩))
      | ending => contradiction
    · exact .inr (.inr (.inr ⟨place, line, ⟨before, after, d, hlines, hlead, hnone⟩, rfl⟩))
  · rintro (⟨⟨d, hlead⟩, rfl⟩ | ⟨⟨d, hlead⟩, rfl⟩ | ⟨⟨d, hlead⟩, rfl⟩ |
      ⟨place, line, ⟨before, after, d, hlines, hlead, hnone⟩, rfl⟩)
    · exact .inl ⟨_, d, hlead, rfl⟩
    · exact .inl ⟨_, d, hlead, rfl⟩
    · exact .inl ⟨_, d, hlead, rfl⟩
    · exact .inr ⟨before, line, after, place, d, hlines, hlead, hnone, rfl⟩

theorem begun_definition_iff {texts : List String} : Begun .definition texts ↔ texts = [] := by
  constructor
  · rintro ⟨⟩
    rfl
  · rintro rfl
    exact .definition

/-- Behind `begin` a closing line is never at fault. -/
theorem Faulty.not_isEnding {place : Section} {line : Line} (h : Faulty tokens source place line)
    (hplace : place = .pipeline ∨ place = .ending) : ¬ IsEnding line.text := by
  rintro ⟨output, ho⟩
  obtain ⟨-, -, d, -, -, hnone⟩ := (faulty_iff tokens source place line).1 h
  rw [follow?_ending tokens d hplace ho] at hnone
  contradiction

theorem malformedLine_inj {place other : Section} {line l : Line} :
    malformedLine place line = malformedLine other l ↔ place = other ∧ line = l := by
  cases line
  cases l
  simp [malformedLine]

/-- Each error of a text tells exactly how its lines fail. One that names a line names the first with which
the lines are viable no more, its number in the text and its section. -/
theorem parse_locates_errors :
    (parse tokens source = .error .empty ↔ significantLines source = []) ∧
    (parse tokens source = .error .missingBegin ↔ Begun .declaration (significantTexts source)) ∧
    (parse tokens source = .error .missingEnd ↔ Begun .pipeline (significantTexts source)) ∧
    (∀ e, parse tokens source = .error e → e = .empty ∨ e = .missingBegin ∨ e = .missingEnd ∨
      ∃ place line, e = malformedLine place line) ∧
    ∀ place line,
      (parse tokens source = .error (malformedLine place line) ↔ Faulty tokens source place line) ∧
      (Faulty tokens source place line →
        (1 ≤ line.number ∧ ∃ p, (Text.pieces source.toList)[line.number - 1]? = some p ∧
          line.text = String.ofList (Text.trim p)) ∧
        (place = .pipeline ∨ place = .ending → ¬ IsEnding line.text)) := by
  refine ⟨?_, ?_, ?_, fun e he => ?_, fun place line => ⟨?_, fun h => ⟨?_, h.not_isEnding⟩⟩⟩
  · rw [parse_eq_error_iff, begun_definition_iff, significantTexts, List.map_eq_nil_iff]
    simp [malformedLine]
  · rw [parse_eq_error_iff]
    simp [malformedLine]
  · rw [parse_eq_error_iff]
    simp [malformedLine]
  · rcases (parse_eq_error_iff tokens source e).1 he with
      ⟨-, rfl⟩ | ⟨-, rfl⟩ | ⟨-, rfl⟩ | ⟨place, line, -, rfl⟩
    · exact .inl rfl
    · exact .inr (.inl rfl)
    · exact .inr (.inr (.inl rfl))
    · exact .inr (.inr (.inr ⟨place, line, rfl⟩))
  · rw [parse_eq_error_iff]
    constructor
    · rintro (⟨-, h⟩ | ⟨-, h⟩ | ⟨-, h⟩ | ⟨place, line, h, heq⟩)
      · simp [malformedLine] at h
      · simp [malformedLine] at h
      · simp [malformedLine] at h
      · obtain ⟨rfl, rfl⟩ := malformedLine_inj.1 heq
        exact h
    · exact fun h => .inr (.inr (.inr ⟨place, line, h, rfl⟩))
  · obtain ⟨before, after, hlines, -⟩ := h
    exact exists_piece (by simp [hlines])

end Parsing

end CommandPipeline.Language
