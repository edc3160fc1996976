import CommandPipeline.Proofs.Language.Declaring
import CommandPipeline.Proofs.Language.Following
import CommandPipeline.Proofs.Text.Cut

/-! The language of pipelines. The significant lines of a pipeline fall into a heading, declarations,
a line `begin`, steps and closing lines, in one way only. A text is read exactly if its lines do, and
the document is the one that the parts denote. -/
namespace CommandPipeline.Language

/-! ### Parts -/

def IsDeclared (text : String) : Prop := ∃ a, declaration? text = some a ∧ a ≠ .begin

/-- A step that does not close the steps. -/
def IsStep (text : String) : Prop := (∃ s, step? text = some s) ∧ ending? text = none

def IsEnding (text : String) : Prop := ∃ output, ending? text = some output

/-- Lines that make up a pipeline, part by part. -/
@[ext]
structure Outline where
  heading : String
  declarations : List String
  steps : List String
  endings : List String
  heading_ok : ∃ name, definition? heading = some name
  declarations_ok : ∀ text ∈ declarations, IsDeclared text
  steps_ok : ∀ text ∈ steps, IsStep text
  endings_ok : ∀ text ∈ endings, IsEnding text
  endings_ne_nil : endings ≠ []

namespace Outline

def lines (o : Outline) : List String :=
  o.heading :: (o.declarations ++ "begin" :: (o.steps ++ o.endings))

/-- What the declaration lines declare, in order. -/
def declared (o : Outline) : List Declaration := o.declarations.filterMap declaration?

/-- The document that an outline stands for. -/
structure Denotes (tokens : TokenSource) (o : Outline) (d : Document) : Prop where
  name : definition? o.heading = some d.name
  inputs : d.inputs = o.declared.filterMap Declaration.input?
  names : ∀ name, name ∈ d.declarations.names ↔ ∃ a ∈ o.declared, a.declares? = some name
  values : ∀ name value, d.declarations.get? name = some value ↔
    LastGives tokens o.declared name value
  steps : o.steps.map step? = d.steps.map some
  output : (o.endings.getLast?).bind ending? = some d.output

end Outline

theorem declaration?_eq_begin_iff {text : String} :
    declaration? text = some .begin ↔ text = "begin" := by
  unfold declaration?
  split_ifs with h
  · simp [h]
  · cases keywordName? "use" text.toList <;> cases keywordName? "rand" text.toList <;> simp [h]

theorem IsDeclared.ne_begin {text : String} (h : IsDeclared text) : text ≠ "begin" := by
  rintro rfl
  obtain ⟨a, ha, hne⟩ := h
  rw [declaration?_eq_begin_iff.2 rfl] at ha
  exact hne (Option.some.inj ha).symm

/-- Lines are divided at `begin` and at the first closing line behind it. -/
theorem Outline.lines_injective {o p : Outline} (h : o.lines = p.lines) : o = p := by
  obtain ⟨hh, ht⟩ := List.cons.inj h
  have declared : ∀ q : Outline, ∀ text ∈ q.declarations, (text != "begin") = true := by
    intro q text hq
    simpa using (q.declarations_ok text hq).ne_begin
  obtain ⟨hd, hb⟩ := Text.append_unique ht (declared o) (declared p) (by simp) (by simp)
  have steps : ∀ q : Outline, ∀ text ∈ q.steps, (ending? text).isNone = true := by
    intro q text hq
    simp [(q.steps_ok text hq).2]
  have endings : ∀ q : Outline, ∀ text ∈ q.endings.head?, (ending? text).isNone = false := by
    intro q text hq
    obtain ⟨output, ho⟩ := q.endings_ok text (List.mem_of_mem_head? hq)
    simp [ho]
  obtain ⟨hs, he⟩ := Text.append_unique (List.cons.inj hb).2 (steps o) (steps p) (endings o) (endings p)
  exact Outline.ext hh hd hs he

/-! ### Lines of an outline lead to the end -/

section Leading

variable (tokens : TokenSource) (d : Draft) {texts : List String}

theorem followAll?_declarations (h : ∀ text ∈ texts, IsDeclared text) :
    followAll? tokens (.declaration, d) texts =
      some (.declaration, d.declareAll tokens (texts.filterMap declaration?)) := by
  refine followAll?_stay (fun text ht => ?_) d
  obtain ⟨a, ha, hne⟩ := h text ht
  exact ⟨a, ha, fun d => follow?_declaration tokens d ha hne⟩

theorem followAll?_steps (h : ∀ text ∈ texts, IsStep text) :
    followAll? tokens (.pipeline, d) texts =
      some (.pipeline, (texts.filterMap step?).foldl Draft.addStep d) := by
  refine followAll?_stay (fun text ht => ?_) d
  obtain ⟨⟨s, hs⟩, he⟩ := h text ht
  exact ⟨s, hs, fun d => follow?_step tokens d hs he⟩

/-- Of several closing lines the last one names the output. -/
theorem followAll?_endings (hne : texts ≠ []) (h : ∀ text ∈ texts, IsEnding text) :
    ∃ output, (texts.getLast?).bind ending? = some output ∧
      followAll? tokens (.pipeline, d) texts = some (.ending, d.close output) := by
  induction texts using List.reverseRecOn with
  | nil => exact absurd rfl hne
  | append_singleton texts text ih =>
    obtain ⟨output, ho⟩ := h text (by simp)
    refine ⟨output, by simp [ho], ?_⟩
    rw [followAll?_append]
    rcases eq_or_ne texts [] with rfl | hts
    · rw [followAll?_nil, Option.bind_some, followAll?_cons, follow?_ending tokens d (.inl rfl) ho]
      rfl
    · obtain ⟨_, -, hlead⟩ := ih hts fun t ht => h t (by simp [ht])
      rw [hlead, Option.bind_some, followAll?_cons, follow?_ending tokens _ (.inr rfl) ho]
      rfl

end Leading

theorem steps_addSteps (d : Draft) (steps : List Step) :
    steps.foldl Draft.addStep d =
      { d with document := { d.document with steps := d.document.steps ++ steps } } := by
  induction steps generalizing d with
  | nil => simp
  | cons s steps ih => simp [ih, Draft.addStep]

/-- A reader that takes every text loses none. -/
theorem map_eq_map_some {α : Type} {read : String → Option α} {texts : List String}
    (h : ∀ text ∈ texts, ∃ a, read text = some a) :
    texts.map read = (texts.filterMap read).map some := by
  induction texts with
  | nil => rfl
  | cons text texts ih =>
    obtain ⟨a, ha⟩ := h text (by simp)
    simp [ha, ih fun t ht => h t (by simp [ht])]

namespace Outline

/-- The draft that the parts of an outline make up. -/
def draft (tokens : TokenSource) (o : Outline) (name : String) (output : Option String) : Draft :=
  ((o.steps.filterMap step?).foldl Draft.addStep
    (Draft.declareAll tokens (Draft.entitle {} name) o.declared)).close output

variable {tokens : TokenSource} {o : Outline} {name : String} {output : Option String}

theorem document_draft :
    (o.draft tokens name output).document =
      { name
        inputs := o.declared.filterMap Declaration.input?
        declarations := (Draft.declareAll tokens (Draft.entitle {} name) o.declared).document.declarations
        steps := o.steps.filterMap step?
        output } := by
  obtain ⟨hn, hs, -⟩ := Draft.kept_declareAll tokens (Draft.entitle {} name) o.declared
  have hi := Draft.inputs_declareAll tokens (Draft.entitle {} name) o.declared
  simp only [draft, Draft.close, steps_addSteps, hn, hs, hi]
  rfl

theorem denotes_draft (hname : definition? o.heading = some name)
    (houtput : (o.endings.getLast?).bind ending? = some output) :
    o.Denotes tokens (o.draft tokens name output).document := by
  have values : ∀ x v, (o.draft tokens name output).document.declarations.get? x = some v ↔
      LastGives tokens o.declared x v := by
    intro x v
    rw [document_draft]
    exact Draft.get?_declareAll tokens rfl rfl o.declared x v
  refine ⟨?_, ?_, fun x => ?_, values, ?_, ?_⟩
  · rw [document_draft, hname]
  · rw [document_draft]
  · rw [Bindings.mem_names_iff, Bindings.contains, Option.isSome_iff_exists]
    simp only [values]
    exact exists_lastGives_iff tokens o.declared x
  · rw [document_draft]
    exact map_eq_map_some fun text ht => (o.steps_ok text ht).1
  · rw [document_draft, houtput]

/-- The lines of an outline lead to the document that it denotes. -/
theorem exists_follow (tokens : TokenSource) (o : Outline) :
    ∃ d, followAll? tokens (.definition, {}) o.lines = some (.ending, d) ∧
      o.Denotes tokens d.document := by
  obtain ⟨name, hname⟩ := o.heading_ok
  obtain ⟨output, houtput, hlead⟩ := followAll?_endings tokens
    ((o.steps.filterMap step?).foldl Draft.addStep
      (Draft.declareAll tokens (Draft.entitle {} name) o.declared)) o.endings_ne_nil o.endings_ok
  refine ⟨o.draft tokens name output, ?_, denotes_draft hname houtput⟩
  have hstart : follow? tokens (.definition, {}) o.heading =
      some (.declaration, Draft.entitle {} name) := by
    simp [follow?, hname]
  rw [lines, followAll?_cons, hstart, Option.bind_some, followAll?_append,
    followAll?_declarations tokens _ o.declarations_ok, Option.bind_some, followAll?_cons,
    follow?_begin tokens _ (declaration?_eq_begin_iff.2 rfl), Option.bind_some, followAll?_append,
    followAll?_steps tokens _ o.steps_ok, Option.bind_some]
  exact hlead

/-- An outline denotes one document. -/
theorem Denotes.unique {d e : Document} (hd : o.Denotes tokens d) (he : o.Denotes tokens e) :
    d = e := by
  have hname : d.name = e.name := Option.some.inj (hd.name.symm.trans he.name)
  have hinputs : d.inputs = e.inputs := hd.inputs.trans he.inputs.symm
  have hdeclarations : d.declarations = e.declarations :=
    Bindings.ext_get? fun x => Option.ext fun v => (hd.values x v).trans (he.values x v).symm
  have hsteps : d.steps = e.steps :=
    (List.map_inj_right fun _ _ => Option.some.inj).1 (hd.steps.symm.trans he.steps)
  have houtput : d.output = e.output := Option.some.inj (hd.output.symm.trans he.output)
  cases d
  cases e
  simp_all

end Outline

/-! ### Lines that lead to the end have an outline -/

section Led

variable {tokens : TokenSource} {place : Section} {d e : Draft} {texts : List String}

/-- From the last section lines lead nowhere else. -/
theorem endings_of_followAll? (h : followAll? tokens (.ending, d) texts = some (place, e)) :
    place = .ending ∧ ∀ text ∈ texts, IsEnding text := by
  induction texts generalizing d with
  | nil => simp_all [followAll?_nil]
  | cons text texts ih =>
    rw [followAll?_cons] at h
    obtain ⟨n, hn, h⟩ := Option.bind_eq_some_iff.1 h
    obtain ⟨output, ho, rfl⟩ := Option.map_eq_some_iff.1 hn
    obtain ⟨hp, hrest⟩ := ih h
    exact ⟨hp, by simpa using ⟨⟨output, ho⟩, hrest⟩⟩

/-- Behind `begin`, lines are steps and then closing lines. -/
theorem steps_of_followAll? (h : followAll? tokens (.pipeline, d) texts = some (place, e)) :
    ∃ steps endings, texts = steps ++ endings ∧ (∀ text ∈ steps, IsStep text) ∧
      (∀ text ∈ endings, IsEnding text) ∧
      place = if endings = [] then .pipeline else .ending := by
  induction texts generalizing d with
  | nil => exact ⟨[], [], by simp_all [followAll?_nil]⟩
  | cons text texts ih =>
    rw [followAll?_cons] at h
    obtain ⟨n, hn, h⟩ := Option.bind_eq_some_iff.1 h
    cases ho : ending? text with
    | some output =>
      obtain rfl := Option.some.inj ((follow?_ending tokens d (.inl rfl) ho).symm.trans hn)
      obtain ⟨hp, hrest⟩ := endings_of_followAll? h
      exact ⟨[], text :: texts, rfl, by simp, by simpa using ⟨⟨output, ho⟩, hrest⟩, by simp [hp]⟩
    | none =>
      simp only [follow?, ho] at hn
      obtain ⟨s, hs, rfl⟩ := Option.map_eq_some_iff.1 hn
      obtain ⟨steps, endings, rfl, hsteps, hendings, hp⟩ := ih h
      refine ⟨text :: steps, endings, rfl, ?_, hendings, hp⟩
      simpa using ⟨⟨⟨s, hs⟩, ho⟩, hsteps⟩

/-- Behind the heading, lines are declarations and then, if there is one, `begin` and more. -/
theorem declared_of_followAll? (h : followAll? tokens (.declaration, d) texts = some (place, e)) :
    (place = .declaration ∧ ∀ text ∈ texts, IsDeclared text) ∨
      ∃ declarations rest f, texts = declarations ++ "begin" :: rest ∧
        (∀ text ∈ declarations, IsDeclared text) ∧
        followAll? tokens (.pipeline, f) rest = some (place, e) := by
  induction texts generalizing d with
  | nil => exact .inl (by simp_all [followAll?_nil])
  | cons text texts ih =>
    rw [followAll?_cons] at h
    obtain ⟨n, hn, h⟩ := Option.bind_eq_some_iff.1 h
    obtain ⟨a, ha, hm⟩ := Option.map_eq_some_iff.1 hn
    by_cases hb : a = .begin
    · subst hb
      obtain rfl := declaration?_eq_begin_iff.1 ha
      obtain rfl : (.pipeline, d) = n := hm
      exact .inr ⟨[], texts, d, rfl, by simp, h⟩
    · obtain rfl := Option.some.inj ((follow?_declaration tokens d ha hb).symm.trans hn)
      rcases ih h with ⟨hp, hrest⟩ | ⟨declarations, rest, f, rfl, hdeclarations, hrest⟩
      · exact .inl ⟨hp, by simpa using ⟨⟨a, ha, hb⟩, hrest⟩⟩
      · refine .inr ⟨text :: declarations, rest, f, rfl, ?_, hrest⟩
        simpa using ⟨⟨a, ha, hb⟩, hdeclarations⟩

/-- Lines that lead from the start to the last section are the lines of an outline. -/
theorem exists_outline (h : followAll? tokens (.definition, d) texts = some (.ending, e)) :
    ∃ o : Outline, o.lines = texts := by
  cases texts with
  | nil => simp [followAll?_nil] at h
  | cons heading texts =>
    rw [followAll?_cons] at h
    obtain ⟨n, hn, h⟩ := Option.bind_eq_some_iff.1 h
    obtain ⟨name, hname, rfl⟩ := Option.map_eq_some_iff.1 hn
    rcases declared_of_followAll? h with ⟨hp, -⟩ | ⟨declarations, rest, f, rfl, hdeclarations, h⟩
    · contradiction
    · obtain ⟨steps, endings, rfl, hsteps, hendings, hp⟩ := steps_of_followAll? h
      have hne : endings ≠ [] := by
        rintro rfl
        simp at hp
      exact ⟨⟨heading, declarations, steps, endings, ⟨name, hname⟩, hdeclarations, hsteps, hendings,
        hne⟩, rfl⟩

end Led

/-! ### Reading a text -/

/-- The significant lines of a text, without their numbers. -/
def significantTexts (source : String) : List String := (significantLines source).map Line.text

theorem parse_eq_ok_iff (tokens : TokenSource) (source : String) (d : Document) :
    parse tokens source = .ok d ↔
      ∃ e, followAll? tokens (.definition, {}) (significantTexts source) = some (.ending, e) ∧
        e.document = d :=
  run_eq_ok_iff tokens { rest := significantLines source } d

/-- A text is read exactly if its significant lines have an outline. They have one at most, and the
document that is read is the one that the outline denotes. -/
theorem parse_reads_outlines (tokens : TokenSource) (source : String) :
    ((∃ d, parse tokens source = .ok d) ↔ ∃ o : Outline, o.lines = significantTexts source) ∧
      Subsingleton { o : Outline // o.lines = significantTexts source } ∧
      ∀ d, parse tokens source = .ok d ↔
        ∃ o : Outline, o.lines = significantTexts source ∧ o.Denotes tokens d := by
  have reads : ∀ d, parse tokens source = .ok d ↔
      ∃ o : Outline, o.lines = significantTexts source ∧ o.Denotes tokens d := by
    intro d
    rw [parse_eq_ok_iff]
    constructor
    · rintro ⟨e, he, rfl⟩
      obtain ⟨o, ho⟩ := exists_outline he
      obtain ⟨f, hf, hdenotes⟩ := o.exists_follow tokens
      rw [ho, he] at hf
      obtain ⟨-, rfl⟩ := Prod.mk.inj (Option.some.inj hf)
      exact ⟨o, ho, hdenotes⟩
    · rintro ⟨o, ho, hd⟩
      obtain ⟨f, hf, hdenotes⟩ := o.exists_follow tokens
      exact ⟨f, ho ▸ hf, hdenotes.unique hd⟩
  refine ⟨⟨?_, ?_⟩, ⟨fun o p => Subtype.ext (Outline.lines_injective (o.2.trans p.2.symm))⟩, reads⟩
  · rintro ⟨d, hd⟩
    obtain ⟨o, ho, -⟩ := (reads d).1 hd
    exact ⟨o, ho⟩
  · rintro ⟨o, ho⟩
    obtain ⟨f, -, hdenotes⟩ := o.exists_follow tokens
    exact ⟨f.document, (reads _).2 ⟨o, ho, hdenotes⟩⟩

end CommandPipeline.Language
