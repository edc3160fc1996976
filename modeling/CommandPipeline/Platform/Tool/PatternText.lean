import CommandPipeline.Platform.Tool.Pattern

/-! Reading basic regular expressions. -/
namespace CommandPipeline.Platform.Tool

namespace Pattern

/-- Why a text is no pattern. -/
inductive Fault where
  | emptySet
  | unclosedSet
  | unknownClass
  | badCollation
  | badRange
  | unclosedGroup
  | unopenedGroup
  | unclosedCount
  | badCount
  | countTooLarge
  | badReference
  | trailingBackslash
  deriving DecidableEq, Repr

def Fault.message : Fault → String
  | .emptySet => "Invalid regular expression"
  | .unclosedSet => "Unmatched [, [^, [:, [., or [="
  | .unknownClass => "Invalid character class name"
  | .badCollation => "Invalid collation character"
  | .badRange => "Invalid range end"
  | .unclosedGroup => "Unmatched ( or \\("
  | .unopenedGroup => "Unmatched ) or \\)"
  | .unclosedCount => "Unmatched \\\x7b"
  | .badCount => "Invalid content of \\\x7b\\\x7d"
  | .countTooLarge => "Regular expression too big"
  | .badReference => "Invalid back reference"
  | .trailingBackslash => "Trailing backslash"

abbrev Reading (α : Type) := Except Fault α

/-- The name up to a mark and a closing bracket, and what follows them. -/
def markedName? (mark : Char) : List Char → Option (List Char × List Char)
  | [] => none
  | c :: cs =>
    if c = mark ∧ cs.head? = some ']' then some ([], cs.tail)
    else (markedName? mark cs).map fun (name, rest) => (c :: name, rest)

/-- Whether the character set has an order in which the character stands. -/
def isOrdered (charset : Charset) (c : Char) : Bool := charset == .ascii || c.toNat < 0x80

/-- Reads one element of a bracket expression: a character or what stands in brackets of its own. -/
def setElement (charset : Charset) : List Char → Reading (SetItem × List Char)
  | [] => .error .unclosedSet
  | '[' :: mark :: cs =>
    if mark = ':' ∨ mark = '=' ∨ mark = '.' then
      match markedName? mark cs with
      | none => .error .unclosedSet
      | some (name, rest) =>
        if mark = ':' then
          if (Charset.classes.lookup (String.ofList name)).isSome then .ok (.named (String.ofList name), rest)
          else .error .unknownClass
        else match name with
          | [c] => if isOrdered charset c then .ok (.range c c, rest) else .error .badCollation
          | _ => .error .badCollation
    else .ok (.range '[' '[', mark :: cs)
  | c :: cs => .ok (.range c c, cs)

/-- Whether an element can be the end of a range. -/
def isRangeEnd (element : SetItem) (written : List Char) : Option Char :=
  match element with
  | .range c _ => if "[=".toList.isPrefixOf written then none else some c
  | .named _ => none

/-- Reads the members of a bracket expression up to the bracket that closes it. -/
def setItems (charset : Charset) : (fuel : Nat) → (first : Bool) → List Char → Reading (List SetItem × List Char)
  | 0, _, _ => .error .unclosedSet
  | _ + 1, _, [] => .error .unclosedSet
  | fuel + 1, first, c :: cs => do
    if c = ']' ∧ !first then return ([], cs)
    if c = '-' ∧ !first ∧ cs.head? ≠ some ']' then .error (if cs.isEmpty then .unclosedSet else .badRange)
    let (item, rest) ← setElement charset (c :: cs)
    match isRangeEnd item (c :: cs), rest with
    | some low, '-' :: d :: behind =>
      if d = ']' then
        let (items, rest) ← setItems charset fuel false rest
        return (item :: items, rest)
      else
        let (upper, rest) ← setElement charset (d :: behind)
        match isRangeEnd upper (d :: behind) with
        | none => .error .badRange
        | some high =>
          if !isOrdered charset low || !isOrdered charset high then .error .badCollation
          let (items, rest) ← setItems charset fuel false rest
          return (.range low high :: items, rest)
    | _, _ =>
      let (items, rest) ← setItems charset fuel false rest
      return (item :: items, rest)

/-- One side of a count. -/
structure CountPart where
  number : Option Nat := none
  /-- Whether something that is no digit stands in it. -/
  spoiled : Bool := false
  /-- Whether the count ends with it, and not a comma. -/
  closed : Bool := false
  rest : List Char := []

/-- The length that no count may exceed. -/
def countLimit : Nat := 32767

/-- Reads one side of a count, up to a comma or to the brace that closes it. -/
def countPart? (p : CountPart) : List Char → Option CountPart
  | [] => none
  | ',' :: rest => some { p with rest }
  | '\\' :: c :: rest =>
    if c.toNat = 0x7D then some { p with closed := true, rest }
    else if c = ',' then some { p with rest }
    else countPart? { p with spoiled := true } rest
  | c :: rest =>
    if c.isDigit then
      countPart? { p with number := some (min (countLimit + 1) (p.number.getD 0 * 10 + (c.toNat - 48))) } rest
    else countPart? { p with spoiled := true } rest

/-- Reads how often something is repeated: a number, or a least and a greatest one with a comma between
them, of which either may be missing. -/
def bounds (cs : List Char) : Reading ((Nat × Option Nat) × List Char) := do
  let some p := countPart? {} cs | .error .unclosedCount
  if p.spoiled ∨ (p.number.isNone ∧ p.closed) then .error .badCount
  let least := p.number.getD 0
  let q ← if p.closed then .ok p
    else match countPart? {} p.rest with
      | some q => .ok q
      | none => .error .unclosedCount
  if q.spoiled ∨ !q.closed ∨ q.number.any (· < least) then .error .badCount
  else if countLimit < q.number.getD least then .error .countTooLarge
  else .ok ((least, q.number), q.rest)

/-- Reads the repetitions behind an item. -/
def repetitions : (fuel : Nat) → Pattern → List Char → Reading (Pattern × List Char)
  | 0, p, cs => .ok (p, cs)
  | fuel + 1, p, cs =>
    match cs with
    | '*' :: rest => repetitions fuel (.repetition 0 none p) rest
    | '\\' :: '+' :: rest => repetitions fuel (.repetition 1 none p) rest
    | '\\' :: '?' :: rest => repetitions fuel (.repetition 0 (some 1) p) rest
    | '\\' :: c :: rest =>
      if c.toNat = 0x7B then do
        let ((least, most), rest) ← bounds rest
        repetitions fuel (.repetition least most p) rest
      else .ok (p, cs)
    | cs => .ok (p, cs)

/-- Whether nothing of a branch follows. -/
def endsBranch (cs : List Char) : Bool :=
  cs.isEmpty || "\\)".toList.isPrefixOf cs || "\\|".toList.isPrefixOf cs

/-- What a letter or a sign behind a backslash means. -/
def escapedItem? (c : Char) : Option Pattern :=
  let word : List SetItem := [.named "alnum", .range '_' '_']
  match c with
  | 'w' => some (.set false word)
  | 'W' => some (.set true word)
  | 's' => some (.set false [.named "space"])
  | 'S' => some (.set true [.named "space"])
  | 'b' => some (.anchor .wordEdge)
  | 'B' => some (.anchor .noWordEdge)
  | '<' => some (.anchor .wordStart)
  | '>' => some (.anchor .wordEnd)
  | c => if c.toNat = 0x60 then some (.anchor .start) else if c.toNat = 0x27 then some (.anchor .finish) else none

/-- The groups of a pattern: how many have been opened, and which have been closed. -/
structure Groups where
  opened : Nat := 0
  closed : List Nat := []

/-- Whether nothing has been written that could match. -/
def isNothing : Pattern → Bool
  | .empty => true
  | .sequence p q => p.isNothing && q.isNothing
  | .repetition _ most _ => most == some 0
  | _ => false

/-- The pattern of some branches, of which the first ones are preferred. Only a first branch of nothing
stands back behind the second one. -/
def choices : List Pattern → Pattern
  | [] => .empty
  | [p] => p
  | p :: q :: ps =>
    let (p, q) := if p.isNothing then (q, p) else (p, q)
    .choice p (ps.foldl .choice q)

mutual

/-- Reads branches with bars between them. -/
def branches (charset : Charset) : (fuel : Nat) → Groups → List Char → Reading (List Pattern × Groups × List Char)
  | 0, g, cs => .ok ([], g, cs)
  | fuel + 1, g, cs => do
    let (p, h, rest) ← items charset fuel true g cs
    match rest with
    | '\\' :: '|' :: rest =>
      let (ps, k, rest) ← branches charset fuel { h with closed := g.closed } rest
      .ok (p :: ps, { k with closed := h.closed ++ k.closed }, rest)
    | rest => .ok ([p], h, rest)

/-- Reads the items of a branch. Where no item stands in front, a star is a character and a caret is
an anchor. -/
def items (charset : Charset) : (fuel : Nat) → (first : Bool) → Groups → List Char → Reading (Pattern × Groups × List Char)
  | 0, _, g, cs => .ok (.empty, g, cs)
  | fuel + 1, first, g, cs => do
    if endsBranch cs then .ok (.empty, g, cs)
    else if first && cs.head? == some '^' then
      let (q, g, rest) ← items charset fuel false g cs.tail
      .ok (.sequence (.anchor .start) q, g, rest)
    else
      let (p, g, rest) ← item charset fuel g cs
      match p with
      | .anchor _ =>
        let (q, g, rest) ← items charset fuel false g rest
        .ok (.sequence p q, g, rest)
      | p =>
        let (p, rest) ← repetitions fuel p rest
        let (q, g, rest) ← items charset fuel false g rest
        .ok (.sequence p q, g, rest)

def item (charset : Charset) : (fuel : Nat) → Groups → List Char → Reading (Pattern × Groups × List Char)
  | 0, g, cs => .ok (.empty, g, cs)
  | _ + 1, g, [] => .ok (.empty, g, [])
  | fuel + 1, g, c :: cs =>
    if c = '.' then .ok (.any, g, cs)
    else if c = '$' ∧ endsBranch cs then .ok (.anchor .finish, g, cs)
    else if c = '[' then do
      let complement := cs.head? = some '^'
      let body := if complement then cs.tail else cs
      if body.isEmpty then .error .emptySet
      else
        let (members, rest) ← setItems charset (body.length + 1) true body
        .ok (.set complement members, g, rest)
    else if c = '\\' then
      match cs with
      | '(' :: cs => do
        let number := g.opened + 1
        let (ps, h, rest) ← branches charset fuel { g with opened := number } cs
        match rest with
        | '\\' :: ')' :: rest => .ok (.group number (choices ps), { h with closed := number :: h.closed }, rest)
        | _ => .error .unclosedGroup
      | d :: cs =>
        if d.isDigit ∧ d ≠ '0' then
          if g.closed.contains (d.toNat - 48) then .ok (.again (d.toNat - 48), g, cs)
          else .error .badReference
        else .ok ((escapedItem? d).getD (char d), g, cs)
      | [] => .error .trailingBackslash
    else .ok (char c, g, cs)

end

/-- A pattern and the number of its groups. -/
def parse (charset : Charset) (cs : List Char) : Reading (Pattern × Nat) := do
  let (ps, g, rest) ← branches charset (4 * cs.length + 4) {} cs
  if rest.isEmpty then .ok (choices ps, g.opened) else .error .unopenedGroup

end Pattern

end CommandPipeline.Platform.Tool
