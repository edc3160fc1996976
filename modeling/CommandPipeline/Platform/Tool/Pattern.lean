import CommandPipeline.Platform.CharacterClass

/-! Basic regular expressions, matched at the beginning of a text. -/
namespace CommandPipeline.Platform.Tool

/-- A member of a bracket expression. -/
inductive SetItem where
  | range (low high : Char)
  | named (name : String)
  deriving DecidableEq, Repr

/-- A condition on the place between two characters. -/
inductive Anchor where
  | start
  | finish
  | wordEdge
  | noWordEdge
  | wordStart
  | wordEnd
  deriving DecidableEq, Repr

inductive Pattern where
  | any
  | set (complement : Bool) (items : List SetItem)
  | anchor (a : Anchor)
  | empty
  | sequence (p q : Pattern)
  | choice (p q : Pattern)
  | repetition (least : Nat) (most : Option Nat) (p : Pattern)
  /-- What it matches is kept under a number. -/
  | group (number : Nat) (p : Pattern)
  /-- What a group has matched. -/
  | again (number : Nat)
  deriving Inhabited

namespace Pattern

/-- The pattern of one character. -/
def char (c : Char) : Pattern := .set false [.range c c]

/-- Whether a pattern looks back at a group. -/
def looksBack : Pattern → Bool
  | .again _ => true
  | .sequence p q | .choice p q => p.looksBack || q.looksBack
  | .repetition _ _ p | .group _ p => p.looksBack
  | _ => false

/-! ### Subjects -/

/-- What a pattern is matched against. -/
structure Subject where
  charset : Charset
  text : List Char
  /-- Whether ways of the same length count as different if their groups differ. -/
  exact : Bool

def Subject.holds (w : Subject) (c : Char) : SetItem → Bool
  | .range low high => low ≤ c && c ≤ high
  | .named name => w.charset.inClass name c

/-- The test that a pattern of one character makes. -/
def test? (w : Subject) : Pattern → Option (Char → Bool)
  | .any => some fun _ => true
  | .set complement items => some fun c => items.any (w.holds c) != complement
  | _ => none

/-! ### States -/

/-- What a group has matched: the position at which it begins, and the one at which it ends once it is
closed. -/
structure Capture where
  first : Nat
  last : Option Nat := none
  deriving DecidableEq

abbrev Captures := List (Nat × Capture)

def Captures.put (gs : Captures) (number : Nat) (g : Capture) : Captures :=
  (number, g) :: gs.filter fun h => h.1 != number

/-- How far a match has come. -/
structure State where
  position : Nat := 0
  /-- The character in front. -/
  before : Option Char := none
  rest : List Char
  groups : Captures := []
  /-- The groups as they were when one that is not empty was closed last. -/
  kept : Captures := []

/-- What a group of a state has matched. -/
def State.captured? (w : Subject) (s : State) (number : Nat) : Option (List Char) := do
  let g ← s.groups.lookup number
  let last ← g.last
  return (w.text.drop g.first).take (last - g.first)

def Anchor.holds (w : Subject) (s : State) : Anchor → Bool :=
  let before := s.before.any w.charset.isWord
  let behind := s.rest.head?.any w.charset.isWord
  fun
  | .start => s.position == 0
  | .finish => s.rest.isEmpty
  | .wordEdge => before != behind
  | .noWordEdge => before == behind
  | .wordStart => !before && behind
  | .wordEnd => before && !behind

/-- Goes past one character that passes the test. -/
def State.pass? (test : Char → Bool) (s : State) : Option State :=
  match s.rest with
  | c :: rest => if test c then some { s with position := s.position + 1, before := some c, rest } else none
  | [] => none

def State.openGroup (number : Nat) (s : State) : State :=
  { s with groups := s.groups.put number { first := s.position } }

/-- Closes a group. One that may be missing and has matched nothing leaves all groups as they were when
it had matched before. -/
def State.closeGroup (optional : Bool) (number : Nat) (s : State) : State :=
  match s.groups.lookup number with
  | none => s
  | some g =>
    let groups := s.groups.put number { g with last := some s.position }
    if g.first < s.position then { s with groups, kept := groups }
    else if optional && (s.kept.lookup number).isSome then { s with groups := s.kept }
    else { s with groups }

/-! ### Distinct states -/

/-- The states that have been seen, by their positions. -/
structure Seen where
  places : Array (List (Captures × Captures))

def Seen.none (w : Subject) : Seen := ⟨Array.replicate (w.text.length + 1) []⟩

/-- Whether a state has not been seen, and the states seen with it. -/
def Seen.add (w : Subject) (seen : Seen) (s : State) : Bool × Seen :=
  let here := seen.places.getD s.position []
  if here.isEmpty || (w.exact && !here.contains (s.groups, s.kept)) then
    (true, ⟨seen.places.setIfInBounds s.position ((s.groups, s.kept) :: here)⟩)
  else (false, seen)

/-- The states without those that only repeat an earlier one. -/
def distinct (w : Subject) (states : List State) : List State :=
  if states.length ≤ 1 then states
  else
    (states.foldl (fun (seen, kept) s =>
      let (isNew, seen) := Seen.add w seen s
      (seen, if isNew then s :: kept else kept)) (Seen.none w, [])).2.reverse

/-! ### Repetitions -/

/-- The states after one or more characters that pass a test, the farthest one first. -/
def run (test : Char → Bool) : (fuel : Nat) → (least : Nat) → State → List State → List State
  | 0, least, s, found => if least = 0 then s :: found else found
  | fuel + 1, least, s, found =>
    let found := if least = 0 then s :: found else found
    match s.pass? test with
    | some t => run test fuel (least - 1) t found
    | none => found

/-- Does a step from each of some states. -/
def stepAll (w : Subject) (step : State → List State) (states : List State) : List State :=
  distinct w (states.flatMap step)

/-- Does a step a number of times. -/
def steps (w : Subject) (step : State → List State) : (count : Nat) → List State → List State
  | 0, states => states
  | count + 1, states => if states.isEmpty then [] else steps w step count (stepAll w step states)

/-- Does a step up to a number of times, where more times come first. -/
def stepsUpTo (w : Subject) (step : State → List State) : (count : Nat) → List State → List State
  | 0, states => states
  | count + 1, states =>
    if states.isEmpty then []
    else distinct w (stepsUpTo w step count (stepAll w step states) ++ states)

/-- Does a step any number of times, and adds the states that this ends in, the last one first. From
no state it goes on twice, and a step that comes no further is the last one. -/
def star (w : Subject) (step : State → List State) : (fuel : Nat) → State → Seen × List State → Seen × List State
  | 0, s, (seen, found) => (seen, s :: found)
  | fuel + 1, s, (seen, found) =>
    let (isNew, seen) := Seen.add w seen s
    if !isNew then (seen, found)
    else
      let (seen, found) := (step s).foldl (fun acc t =>
        if t.position = s.position then (acc.1, t :: acc.2) else star w step fuel t acc) (seen, found)
      (seen, s :: found)

/-- Does a step any number of times from each of some states. -/
def starAll (w : Subject) (step : State → List State) (states : List State) : List State :=
  distinct w (states.foldl (fun acc s => star w step (s.rest.length + 1) s acc) (Seen.none w, [])).2.reverse

/-! ### Matching -/

/-- All ways to match, the preferred one of each length first. A group knows whether it may be missing
in a repetition. Only the first of several copies of a repeated pattern has groups that know it, and
behind the copies that must be there, only the next one may be missing itself. -/
def ways (w : Subject) : (copy optional : Bool) → Pattern → State → List State
  | _, _, .any, s => (s.pass? fun _ => true).toList
  | _, _, .set complement items, s => (s.pass? fun c => items.any (w.holds c) != complement).toList
  | _, _, .anchor a, s => if Anchor.holds w s a then [s] else []
  | _, _, .empty, s => [s]
  | copy, _, .sequence p q, s => distinct w ((ways w copy false p s).flatMap (ways w copy false q))
  | copy, _, .choice p q, s => distinct w (ways w copy false p s ++ ways w copy false q s)
  | copy, _, .repetition least most p, s =>
    match p.test? w with
    | some test => run test (most.getD (s.rest.length + least)) least s []
    | none =>
      let first := if least = 0 then [s] else steps w (ways w true false p) (least - 1) (ways w copy false p s)
      let next := ways w (copy || least != 0) (!copy) p
      match most with
      | none => starAll w next first
      | some most =>
        if most ≤ least then first
        else distinct w (first.flatMap fun s =>
          stepsUpTo w (ways w true false p) (most - least - 1) (stepAll w next [s]) ++ [s])
  | copy, optional, .group number p, s =>
    (ways w copy false p (s.openGroup number)).map (State.closeGroup optional number)
  | _, _, .again number, s =>
    match s.captured? w number with
    | none => []
    | some text =>
      match text.isPrefixOf? s.rest with
      | some rest => [{ s with
          position := s.position + text.length, before := text.getLast?.or s.before, rest }]
      | none => []

/-- A match: how much of the text it is, and what the first group has matched. -/
structure Match where
  length : Nat
  first : List Char

/-- The longest way to match the beginning of a text, and of equally long ones the preferred one. -/
def longest? (p : Pattern) (charset : Charset) (text : List Char) : Option Match :=
  let w : Subject := ⟨charset, text, p.looksBack⟩
  ((ways w false false p { rest := text }).foldl (fun best s =>
    match best with
    | none => some s
    | some b => if b.position < s.position then some s else some b) none).map fun s =>
      ⟨s.position, (s.captured? w 1).getD []⟩

end Pattern

end CommandPipeline.Platform.Tool
