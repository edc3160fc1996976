import CommandPipeline.Language.Parse

/-! The machine of the pipeline language as a walk along the lines. Each line moves the machine once
it is used up, so that the line which is read twice counts as one move, and the outcome of a run is
where the moves lead or the first line that allows none. -/
namespace CommandPipeline.Language

namespace Draft

def entitle (d : Draft) (name : String) : Draft :=
  { d with document := { d.document with name := name } }

def close (d : Draft) (output : Option String) : Draft :=
  { d with document := { d.document with output := output } }

end Draft

/-! ### One line -/

/-- Where a line leads from a section and a draft, if it has a form of the section. -/
def follow? (tokens : TokenSource) (m : Section × Draft) (text : String) : Option (Section × Draft) :=
  match m.1 with
  | .definition => (definition? text).map fun name => (.declaration, m.2.entitle name)
  | .declaration =>
    (declaration? text).map fun
      | .begin => (.pipeline, m.2)
      | declaration => (.declaration, m.2.addDeclaration tokens declaration)
  | .pipeline =>
    match ending? text with
    | some output => some (.ending, m.2.close output)
    | none => (step? text).map fun s => (.pipeline, m.2.addStep s)
  | .ending => (ending? text).map fun output => (.ending, m.2.close output)

theorem follow?_begin (tokens : TokenSource) (d : Draft) {text : String}
    (h : declaration? text = some .begin) :
    follow? tokens (.declaration, d) text = some (.pipeline, d) := by
  simp [follow?, h]

theorem follow?_declaration (tokens : TokenSource) (d : Draft) {text : String} {a : Declaration}
    (h : declaration? text = some a) (ha : a ≠ .begin) :
    follow? tokens (.declaration, d) text = some (.declaration, d.addDeclaration tokens a) := by
  cases a <;> simp_all [follow?]

theorem follow?_step (tokens : TokenSource) (d : Draft) {text : String} {s : Step}
    (hs : step? text = some s) (he : ending? text = none) :
    follow? tokens (.pipeline, d) text = some (.pipeline, d.addStep s) := by
  simp [follow?, hs, he]

/-- The line that ends the steps leads where it leads from the last section. -/
theorem follow?_ending (tokens : TokenSource) {place : Section} (d : Draft) {text : String}
    {output : Option String} (hp : place = .pipeline ∨ place = .ending)
    (h : ending? text = some output) :
    follow? tokens (place, d) text = some (.ending, d.close output) := by
  rcases hp with rfl | rfl <;> simp [follow?, h]

/-! ### A run -/

namespace Machine

theorem run_halted {tokens : TokenSource} {m : Machine} {outcome : Except ParseError Document}
    (h : m.turn tokens = .halted outcome) : (m.run tokens).value = outcome := by
  rw [run]
  split
  · rename_i o ho
    rw [h] at ho
    injection ho with ho
    exact ho.symm
  · rename_i ho
    rw [h] at ho
    contradiction

theorem run_moved {tokens : TokenSource} {m next : Machine} {records : List Log.Record}
    (h : m.turn tokens = .moved next records) : (m.run tokens).value = (next.run tokens).value := by
  rw [run]
  split
  · rename_i ho
    rw [h] at ho
    contradiction
  · rename_i n r ho
    rw [h] at ho
    injection ho with hn _
    rw [hn]

theorem run_nil (tokens : TokenSource) (place : Section) (d : Draft) :
    (run tokens ⟨place, d, []⟩).value = finish ⟨place, d, []⟩ :=
  run_halted rfl

section Accepting

variable {tokens : TokenSource} {place next : Section} {d e : Draft} {line : Line}
  {rest : List Line} {records : List Log.Record}

theorem run_rejected {cause : ParseError} (h : accept tokens place line d = .error cause) :
    (run tokens ⟨place, d, line :: rest⟩).value = .error cause :=
  run_halted (by simp [turn, h])

theorem run_advance (h : accept tokens place line d = .ok ⟨.advance next, e, records⟩) :
    (run tokens ⟨place, d, line :: rest⟩).value = (run tokens ⟨next, e, rest⟩).value :=
  run_moved (by simp only [turn, h]; rfl)

theorem run_reconsume (h : accept tokens place line d = .ok ⟨.reconsume next, e, records⟩) :
    (run tokens ⟨place, d, line :: rest⟩).value = (run tokens ⟨next, e, line :: rest⟩).value :=
  run_moved (by simp only [turn, h]; rfl)

/-- The last section closes the draft with what the line names. -/
theorem run_ending {output : Option String} (h : ending? line.text = some output) :
    (run tokens ⟨.ending, d, line :: rest⟩).value =
      (run tokens ⟨.ending, d.close output, rest⟩).value :=
  run_advance (by simp only [accept, acceptEnding, h]; rfl)

end Accepting

/-- A run goes on where its first line leads, or ends in an error at that line. -/
theorem run_cons (tokens : TokenSource) (place : Section) (d : Draft) (line : Line)
    (rest : List Line) :
    (run tokens ⟨place, d, line :: rest⟩).value =
      match follow? tokens (place, d) line.text with
      | some m => (run tokens ⟨m.1, m.2, rest⟩).value
      | none => .error (malformedLine place line) := by
  cases place with
  | definition =>
    cases h : definition? line.text with
    | none =>
      simp only [follow?, h, Option.map_none]
      exact run_rejected (by simp only [accept, acceptDefinition, h])
    | some name =>
      simp only [follow?, h, Option.map_some]
      exact run_advance (by simp only [accept, acceptDefinition, h]; rfl)
  | declaration =>
    cases h : declaration? line.text with
    | none =>
      simp only [follow?, h, Option.map_none]
      exact run_rejected (by simp only [accept, acceptDeclaration, h])
    | some a =>
      cases a <;> simp only [follow?, h, Option.map_some] <;>
        exact run_advance (by simp only [accept, acceptDeclaration, h]; rfl)
  | pipeline =>
    cases he : ending? line.text with
    | some output =>
      simp only [follow?, he]
      rw [run_reconsume (by simp only [accept, acceptStep, he]; rfl), run_ending he]
    | none =>
      cases h : step? line.text with
      | none =>
        simp only [follow?, he, h, Option.map_none]
        exact run_rejected (by simp only [accept, acceptStep, he, h])
      | some s =>
        simp only [follow?, he, h, Option.map_some]
        exact run_advance (by simp only [accept, acceptStep, he, h]; rfl)
  | ending =>
    cases h : ending? line.text with
    | none =>
      simp only [follow?, h, Option.map_none]
      exact run_rejected (by simp only [accept, acceptEnding, h])
    | some output =>
      simp only [follow?, h, Option.map_some]
      exact run_ending h

end Machine

/-! ### All lines -/

/-- Where lines lead, if each has a form of the section that it is met in. -/
def followAll? (tokens : TokenSource) (m : Section × Draft) (texts : List String) :
    Option (Section × Draft) :=
  texts.foldlM (follow? tokens) m

theorem followAll?_nil (tokens : TokenSource) (m : Section × Draft) :
    followAll? tokens m [] = some m := rfl

theorem followAll?_cons (tokens : TokenSource) (m : Section × Draft) (text : String)
    (texts : List String) :
    followAll? tokens m (text :: texts) =
      (follow? tokens m text).bind fun n => followAll? tokens n texts := by
  simp only [followAll?, List.foldlM_cons]
  rfl

theorem followAll?_append (tokens : TokenSource) (m : Section × Draft) (s t : List String) :
    followAll? tokens m (s ++ t) = (followAll? tokens m s).bind fun n => followAll? tokens n t := by
  simp only [followAll?, List.foldlM_append]
  rfl

/-- Lines that each stay in a section add what they capture to the draft one after another. -/
theorem followAll?_stay {α : Type} {tokens : TokenSource} {place : Section}
    {read : String → Option α} {put : Draft → α → Draft} {texts : List String}
    (h : ∀ text ∈ texts, ∃ a, read text = some a ∧
      ∀ d, follow? tokens (place, d) text = some (place, put d a)) (d : Draft) :
    followAll? tokens (place, d) texts = some (place, (texts.filterMap read).foldl put d) := by
  induction texts generalizing d with
  | nil => rfl
  | cons text texts ih =>
    obtain ⟨a, ha, hput⟩ := h text (by simp)
    rw [followAll?_cons, hput, Option.bind_some, ih fun t ht => h t (by simp [ht])]
    simp [ha]

/-- A run gives a document exactly if the lines lead to the last section, and then it is the draft
that they lead to. -/
theorem run_eq_ok_iff (tokens : TokenSource) (m : Machine) (document : Document) :
    (m.run tokens).value = .ok document ↔
      ∃ d, followAll? tokens (m.place, m.draft) (m.rest.map Line.text) = some (.ending, d) ∧
        d.document = document := by
  obtain ⟨place, d, lines⟩ := m
  induction lines generalizing place d with
  | nil =>
    rw [Machine.run_nil, List.map_nil, followAll?_nil]
    cases place <;> simp [Machine.finish]
  | cons line rest ih =>
    rw [Machine.run_cons, List.map_cons, followAll?_cons]
    cases h : follow? tokens (place, d) line.text with
    | none => simp
    | some n => exact ih n.1 n.2

end CommandPipeline.Language
