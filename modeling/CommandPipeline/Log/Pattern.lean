import CommandPipeline.Log.Pattern.Bracket
import CommandPipeline.Text.Alphanumeric

/-! The patterns for values in the directives of a log filter. No record has a value that they could
match, so all that counts is whether a text is a pattern. -/
namespace CommandPipeline.Log

/-! ### Numbers -/

/-- A number with an optional sign, fraction and exponent, or one of the three words for numbers that
have no digits. -/
def isNumber (cs : List Char) : Bool :=
  let unsigned (cs : List Char) : List Char :=
    if cs.head? = some '+' ∨ cs.head? = some '-' then cs.tail else cs
  let body := unsigned cs
  let whole := body.takeWhile Char.isDigit
  let behind := body.drop whole.length
  let fraction := if behind.head? = some '.' then behind.tail.takeWhile Char.isDigit else []
  let behind := if behind.head? = some '.' then behind.tail.drop fraction.length else behind
  let exponent := unsigned behind.tail
  ["inf", "infinity", "nan"].contains (String.ofList body).toLower ||
    !(whole ++ fraction).isEmpty &&
      (behind.isEmpty ||
        (behind.head? == some 'e' || behind.head? == some 'E') && !exponent.isEmpty &&
          exponent.all Char.isDigit)

namespace Pattern

/-! ### Groups -/

/-- A group that is open. -/
structure Group where
  /-- The mode that is in force again behind the group. -/
  outside : Mode := {}
  /-- How deep the alternatives so far are nested. -/
  alternatives : List Nat := []
  /-- How deep the items of the last alternative are nested, from the last one on. -/
  items : List Nat := []
  /-- Whether the last item can be repeated. -/
  repeatable : Bool := false

namespace Group

def add (g : Group) (d : Nat) : Group := { g with items := d :: g.items, repeatable := true }

def depth (g : Group) : Nat := depthOf (depthOf g.items :: g.alternatives)

end Group

/-- The name of a group begins with a letter or an underscore, and ends before a closing angle
bracket. -/
def name? (cs : List Char) : Option (String × List Char) :=
  let name := cs.takeWhile (· != '>')
  let rest := cs.drop name.length
  let isFirst (c : Char) : Bool := c == '_' || Text.isLetter c
  let isNext (c : Char) : Bool := "_.[]".toList.contains c || Text.isAlphanumeric c
  if rest.isEmpty || !name.head?.any isFirst || !name.tail.all isNext then none
  else some (String.ofList name, rest.tail)

/-- What stands at the beginning of a group. -/
inductive Opening where
  | plain
  | named (name : String)
  | flags (mode : Mode)
  /-- Flags that count until the end of the group around them. -/
  | setting (mode : Mode)

/-- Reads what is behind an opening parenthesis. -/
def opening? (m : Mode) (cs : List Char) : Option (Opening × List Char) :=
  match m.skip cs with
  | '?' :: 'P' :: '<' :: cs => (name? cs).map fun (name, rest) => (.named name, rest)
  | '?' :: '<' :: cs => (name? cs).map fun (name, rest) => (.named name, rest)
  | '?' :: cs => do
    let flags := cs.takeWhile fun c => c != ':' && c != ')'
    let mode ← m.withFlags? flags
    match cs.drop flags.length with
    | ':' :: rest => some (.flags mode, rest)
    | ')' :: rest => if flags.isEmpty then none else some (.setting mode, rest)
    | _ => none
  | cs => some (.plain, cs)

/-! ### Patterns -/

/-- The greatest depth of a pattern. -/
def maxDepth : Nat := 250

/-- Reads a piece that stands outside of brackets. A point stands for any character, and so needs a
mode with characters. -/
def item? (m : Mode) : List Char → Option (List Char)
  | '\\' :: cs => (escape? m cs).map Prod.snd
  | c :: cs => if c = '.' ∧ !m.unicode then none else some cs
  | [] => none

/-- Reads a pattern inside the groups `outer`, with the names of groups that are taken. -/
def isPatternFrom : (fuel : Nat) → (names : List String) → (outer : List Group) → Group → Mode →
    List Char → Bool
  | 0, _, _, _, _, _ => false
  | fuel + 1, names, outer, g, m, cs =>
    match m.skip cs with
    | [] => outer.isEmpty && g.depth ≤ maxDepth
    | c :: rest =>
      if c = '(' then
        match opening? m rest with
        | none => false
        | some (.plain, rest) => isPatternFrom fuel names (g :: outer) { outside := m } m rest
        | some (.named name, rest) =>
          !names.contains name &&
            isPatternFrom fuel (name :: names) (g :: outer) { outside := m } m rest
        | some (.flags mode, rest) => isPatternFrom fuel names (g :: outer) { outside := m } mode rest
        | some (.setting mode, rest) =>
          isPatternFrom fuel names outer { g.add 0 with repeatable := false } mode rest
      else if c = ')' then
        match outer with
        | [] => false
        | o :: outer => isPatternFrom fuel names outer (o.add (g.depth + 1)) g.outside rest
      else if c = '|' then
        isPatternFrom fuel names outer
          ⟨g.outside, depthOf g.items :: g.alternatives, [], false⟩ m rest
      else if c = '[' then
        match Bracket.read? m rest with
        | none => false
        | some (d, rest) => isPatternFrom fuel names outer (g.add d) m rest
      else if c = '?' ∨ c = '*' ∨ c = '+' then
        match g.items with
        | d :: items =>
          g.repeatable &&
            isPatternFrom fuel names outer { g with items := (d + 1) :: items } m
              (if rest.head? = some '?' then rest.tail else rest)
        | [] => false
      else if c.toNat = 0x7B then false
      else
        match item? m (c :: rest) with
        | none => false
        | some rest => isPatternFrom fuel names outer (g.add 0) m rest

end Pattern

def isPattern (cs : List Char) : Bool :=
  isNumber cs || Pattern.isPatternFrom (cs.length + 1) [] [] {} {} cs

end CommandPipeline.Log
