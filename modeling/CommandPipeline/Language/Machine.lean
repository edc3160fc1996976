import CommandPipeline.Language.LineForm
import CommandPipeline.Language.ParseError
import CommandPipeline.Language.RandomToken
import CommandPipeline.Language.SignificantLine
import CommandPipeline.Log.Record

/-! The machine that reads significant lines section by section. The line that ends the steps is read
a second time, because it also names the output. -/
namespace CommandPipeline.Language

/-- A document under construction. -/
structure Draft where
  document : Document := {}
  /-- How many random tokens have been drawn. -/
  drawn : Nat := 0

/-- Where the machine goes after it accepted a line. -/
inductive Move where
  /-- To the next line. -/
  | advance (place : Section)
  /-- To the same line again. -/
  | reconsume (place : Section)
  deriving DecidableEq, Repr

/-- What accepting a line gives. -/
structure Accepted where
  move : Move
  draft : Draft
  records : List Log.Record := []

namespace Draft

def declare (d : Draft) (name value : String) : Draft :=
  { d with document := { d.document with declarations := d.document.declarations.insert name value } }

/-- The draft after a declaration other than the last. -/
def addDeclaration (tokens : TokenSource) (d : Draft) : Declaration → Draft
  | .use name => d.declare name ""
  | .rand name => { d.declare name (tokens.token d.drawn) with drawn := d.drawn + 1 }
  | .read input => { d with document := { d.document with inputs := d.document.inputs ++ [input] } }
  | .begin => d

def addStep (d : Draft) (s : Step) : Draft :=
  { d with document := { d.document with steps := d.document.steps ++ [s] } }

end Draft

/-! ### One line -/

/-- The error of a line that has no form of its section. -/
def malformedLine (place : Section) (line : Line) : ParseError :=
  .malformed place line.number line.text

def acceptDefinition (line : Line) (d : Draft) : Except ParseError Accepted :=
  match definition? line.text with
  | none => .error (malformedLine .definition line)
  | some name => .ok {
      move := .advance .declaration
      draft := { d with document := { d.document with name := name } }
      records := [⟨.trace, Log.machine, "pipeline " ++ name⟩] }

def acceptDeclaration (tokens : TokenSource) (line : Line) (d : Draft) : Except ParseError Accepted :=
  match declaration? line.text with
  | none => .error (malformedLine .declaration line)
  | some .begin => .ok { move := .advance .pipeline, draft := d }
  | some declaration => .ok { move := .advance .declaration, draft := d.addDeclaration tokens declaration }

def acceptStep (line : Line) (d : Draft) : Except ParseError Accepted :=
  match ending? line.text with
  | some _ => .ok { move := .reconsume .ending, draft := d }
  | none =>
    match step? line.text with
    | none => .error (malformedLine .pipeline line)
    | some s => .ok {
        move := .advance .pipeline
        draft := d.addStep s
        records := [⟨.trace, Log.machine,
          "step " ++ toString d.document.steps.length ++ ": " ++ s.render⟩] }

def acceptEnding (line : Line) (d : Draft) : Except ParseError Accepted :=
  match ending? line.text with
  | none => .error (malformedLine .ending line)
  | some output => .ok {
      move := .advance .ending
      draft := { d with document := { d.document with output := output } } }

def accept (tokens : TokenSource) (place : Section) (line : Line) (d : Draft) :
    Except ParseError Accepted :=
  match place with
  | .definition => acceptDefinition line d
  | .declaration => acceptDeclaration tokens line d
  | .pipeline => acceptStep line d
  | .ending => acceptEnding line d

/-- Only the line that ends the steps is read again, and then in the last section. -/
theorem accept_reconsume {tokens : TokenSource} {place next : Section} {line : Line} {d : Draft}
    {a : Accepted} (h : accept tokens place line d = .ok a) (hm : a.move = .reconsume next) :
    place = .pipeline ∧ next = .ending := by
  cases place <;> simp only [accept, acceptDefinition, acceptDeclaration, acceptStep, acceptEnding] at h
  all_goals
    repeat' split at h
    all_goals first
      | contradiction
      | (injection h with h; subst h; simp_all)

/-! ### All lines -/

structure Machine where
  place : Section := .definition
  draft : Draft := {}
  rest : List Line

/-- What one turn of the machine does. -/
inductive Turn where
  | halted (outcome : Except ParseError Document)
  | moved (next : Machine) (records : List Log.Record)

namespace Machine

/-- The outcome once no line is left. -/
def finish (m : Machine) : Except ParseError Document :=
  match m.place with
  | .definition => .error .empty
  | .declaration => .error .missingBegin
  | .pipeline => .error .missingEnd
  | .ending => .ok m.draft.document

def turn (tokens : TokenSource) (m : Machine) : Turn :=
  match m.rest with
  | [] => .halted m.finish
  | line :: rest =>
    match accept tokens m.place line m.draft with
    | .error e => .halted (.error e)
    | .ok a =>
      match a.move with
      | .advance place => .moved ⟨place, a.draft, rest⟩ a.records
      | .reconsume place => .moved ⟨place, a.draft, line :: rest⟩ a.records

/-- A turn uses up a line, or it keeps the lines and enters a later section. -/
theorem turn_moved {tokens : TokenSource} {m next : Machine} {records : List Log.Record}
    (h : m.turn tokens = .moved next records) :
    next.rest.length < m.rest.length ∨
      (next.rest = m.rest ∧ m.place = .pipeline ∧ next.place = .ending) := by
  unfold turn at h
  split at h
  · contradiction
  · rename_i line rest hrest
    split at h
    · contradiction
    · rename_i a ha
      split at h
      · injection h with h _
        subst h
        simp [hrest]
      · rename_i place hmove
        injection h with h _
        subst h
        have := accept_reconsume ha hmove
        simp [hrest, this]

/-- Runs the machine until it halts. -/
def run (tokens : TokenSource) (m : Machine) : Log.Logged (Except ParseError Document) :=
  match h : m.turn tokens with
  | .halted outcome => ⟨[], outcome⟩
  | .moved next records =>
    have := turn_moved h
    let r := run tokens next
    ⟨records ++ r.records, r.value⟩
  termination_by (m.rest.length, 3 - m.place.rank)
  decreasing_by
    rcases turn_moved h with h | ⟨h₁, h₂, h₃⟩
    · exact Prod.Lex.left _ _ h
    · rw [h₁, h₂, h₃]
      exact Prod.Lex.right _ (by decide)

end Machine

end CommandPipeline.Language
