import CommandPipeline.Log.Pattern.Piece

/-! Sets in brackets hold characters, ranges, named sets and further brackets, and operators combine
them. Reading one gives how deep it is nested. -/
namespace CommandPipeline.Log.Pattern

/-- How deep a row of things is nested: a single thing stands for itself. -/
def depthOf : List Nat → Nat
  | [] => 0
  | [d] => d
  | ds => ds.foldl max 0 + 1

/-- A bracket that is open: how deep the left side of its operator is nested, and how deep the things
behind that. -/
structure Bracket where
  left : Option Nat := none
  things : List Nat := []

namespace Bracket

def add (b : Bracket) (d : Nat) : Bracket := { b with things := d :: b.things }

/-- How deep all of it is nested. -/
def depth (b : Bracket) : Nat :=
  match b.left with
  | none => depthOf b.things
  | some l => max l (depthOf b.things) + 1

def operator (b : Bracket) : Bracket := ⟨some b.depth, []⟩

/-- The hyphens at the beginning stand for themselves. -/
def hyphens (m : Mode) : (fuel : Nat) → Bracket → List Char → Bracket × List Char
  | 0, b, cs => (b, cs)
  | fuel + 1, b, cs =>
    if cs.head? = some '-' then hyphens m fuel (b.add 0) (m.skip cs.tail) else (b, cs)

/-- Begins a bracket whose opening sign has been read. A complement needs a mode with characters, and a
closing sign that comes first stands for itself. -/
def begin? (m : Mode) (cs : List Char) : Option (Bracket × List Char) :=
  let cs := m.skip cs
  let negated := cs.head? == some '^'
  let cs := if negated then m.skip cs.tail else cs
  if negated && !m.unicode then none
  else
    let (b, cs) := hyphens m cs.length {} cs
    if b.things.isEmpty && cs.head? == some ']' then some (b.add 0, m.skip cs.tail) else some (b, cs)

/-! ### Named sets -/

def names : List String :=
  ["alnum", "alpha", "ascii", "blank", "cntrl", "digit", "graph", "lower", "print", "punct", "space",
   "upper", "word", "xdigit"]

/-- A named set between colons, whose bracket has been read, with whether it is a complement. -/
def named? : List Char → Option (Bool × List Char)
  | ':' :: cs =>
    let negated := cs.head? == some '^'
    let cs := if negated then cs.tail else cs
    let name := cs.takeWhile (· != ':')
    match cs.drop name.length with
    | ':' :: ']' :: rest => if names.contains (String.ofList name) then some (negated, rest) else none
    | _ => none
  | _ => none

/-! ### Ranges -/

def piece? (m : Mode) : List Char → Option (Piece × List Char)
  | '\\' :: cs => escape? m cs
  | c :: cs => some (.char c, cs)
  | [] => none

/-- Whether a character can be in a set. -/
def Holds (m : Mode) (c : Char) : Prop := m.unicode ∨ c.toNat < 0x80

instance (m : Mode) (c : Char) : Decidable (Holds m c) := inferInstanceAs (Decidable (_ ∨ _))

/-- Reads a character, a named set or a range. -/
def range? (m : Mode) (cs : List Char) : Option (List Char) := do
  let (first, rest) ← piece? m cs
  let rest := m.skip rest
  let isRange := rest.head? = some '-' ∧ m.peek? rest.tail ∉ [some ']', some '-']
  match first with
  | .place => none
  | .named => if isRange then none else some rest
  | .char lo =>
    if !isRange then if Holds m lo then some rest else none
    else
      match ← piece? m (m.skip rest.tail) with
      | (.char hi, rest) => if lo ≤ hi ∧ Holds m lo ∧ Holds m hi then some rest else none
      | _ => none

/-! ### Brackets -/

/-- Reads until the bracket is closed that `outer` are around. -/
def readFrom (m : Mode) : (fuel : Nat) → (outer : List Bracket) → Bracket → List Char →
    Option (Nat × List Char)
  | 0, _, _, _ => none
  | fuel + 1, outer, b, cs =>
    match m.skip cs with
    | [] => none
    | '[' :: rest =>
      match named? rest with
      | some (negated, rest) =>
        if negated && !m.unicode then none else readFrom m fuel outer (b.add 0) rest
      | none => do
        let (inner, rest) ← begin? m rest
        readFrom m fuel (b :: outer) inner rest
    | ']' :: rest =>
      match outer with
      | [] => some (b.depth + 1, rest)
      | o :: outer => readFrom m fuel outer (o.add (b.depth + 1)) rest
    | c :: rest =>
      if (c = '&' ∨ c = '-' ∨ c = '~') ∧ rest.head? = some c then
        readFrom m fuel outer b.operator rest.tail
      else do
        let rest ← range? m (c :: rest)
        readFrom m fuel outer (b.add 0) rest

/-- Reads a bracket whose opening sign has been read, and gives how deep it is nested. -/
def read? (m : Mode) (cs : List Char) : Option (Nat × List Char) := do
  let (b, rest) ← begin? m cs
  readFrom m (rest.length + 1) [] b rest

end Bracket

end CommandPipeline.Log.Pattern
