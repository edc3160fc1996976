import CommandPipeline.Platform.Shell.Session

/-! The builtin commands `read` and `getopts`, which put words into variables. -/
namespace CommandPipeline.Platform.Shell

open Text (Octets)

/-! ### Lines -/

/-- A character of a line. One behind a backslash separates nothing, and a line end there is nothing. -/
inductive LineChar where
  | plain (c : Char)
  | kept (c : Option Char)

/-- The characters of the next line, how much of the text they are, and whether the line has an end. -/
def lineChars (raw : Bool) : List Char → List LineChar × Nat × Bool
  | [] => ([], 0, false)
  | '\n' :: _ => ([], 1, true)
  | '\\' :: rest =>
    if raw then
      let (cs, n, ended) := lineChars raw rest
      (.plain '\\' :: cs, n + 1, ended)
    else match rest with
      | [] => ([], 1, false)
      | c :: rest =>
        let (cs, n, ended) := lineChars raw rest
        (.kept (if c = '\n' then none else some c) :: cs, n + 2, ended)
  | c :: rest =>
    let (cs, n, ended) := lineChars raw rest
    (if c.toNat = 0 then cs else .plain c :: cs, n + 1, ended)

/-- A line that is being cut into a number of fields, of which the last one takes all that is left. -/
structure Division where
  /-- The finished fields, the last one first. -/
  fields : List Octets := []
  /-- The field that is not finished, backwards. -/
  current : List Char := []
  /-- Whether a blank has just ended a field. -/
  blank : Bool := false
  /-- How many more fields may end. -/
  left : Nat
  /-- How much of the last field counts if nothing else comes. -/
  kept : Option Nat := none

namespace Division

def push (d : Division) (c : Char) : Division := { d with current := c :: d.current }

def step (separators : List Char) (d : Division) : LineChar → Division
  | .kept c =>
    let d := { d with blank := false }
    c.elim d d.push
  | .plain c =>
    let separates := separators.contains c
    let blank := separates && (c == ' ' || c == '\t' || c == '\n')
    if d.left = 0 then
      if blank then { d with kept := d.kept.or (some d.current.length) }.push c
      else { d with kept := if separates && d.blank then d.kept else none, blank := false }.push c
    else if d.blank ∧ separates then { d with blank }
    else if separates then
      if d.current.isEmpty ∧ blank then d
      else if d.left = 1 then { d with left := 0, blank, kept := some d.current.length }.push c
      else { d with
        left := d.left - 1, blank, fields := String.ofList d.current.reverse :: d.fields, current := [] }
    else { d with blank := false }.push c

def finish (d : Division) : List Octets :=
  let cs := d.current.reverse
  let last := d.kept.elim cs cs.take
  (if last.isEmpty then d.fields else String.ofList last :: d.fields).reverse

end Division

def runRead (words : List Octets) : Step Nat := do
  let (options, names) ← Step.readOptions "p:r" words
  if names.isEmpty then Step.fail "arg count"
  let text := match (← Step.world).unread 0 with
    | .ok text => text.toList
    | .error _ => []
  let (cs, count, ended) := lineChars (options.any fun o => o.1 == 'r') text
  Step.inWorld (modify (World.advance 0 count))
  let d := cs.foldl (Division.step (← Step.memory).separators) { left := names.length }
  let found := d.finish
  (names.zipIdx).forM fun (name, i) => Step.setVariable name (some (found[i]?.getD ""))
  return if ended then 0 else 1

/-! ### Options of scripts -/

/-- The place of a letter among option letters, of which some have a colon behind them. -/
def wantsValue? (letter : Char) : List Char → Option Bool
  | [] => none
  | c :: rest =>
    if c = letter then some (rest.head? = some ':')
    else match rest with
      | ':' :: rest => wantsValue? letter rest
      | rest => wantsValue? letter rest

/-- What `getopts` has found: the letter, the value of `OPTARG`, the next argument and the place in the
one before it, and what is wrong. -/
structure FoundOption where
  letter : Char := '?'
  value : Option Octets := none
  place : Nat × Option Nat
  complaint : Option Octets := none

/-- The next option among some arguments. -/
def nextOption? (letters : List Char) (arguments : List Octets) (place : Nat × Option Nat) :
    Except Nat FoundOption :=
  let (index, offset) := place
  let unfinished : Option (Nat × List Char) := do
    let word ← if 1 < index then arguments[index - 2]? else none
    let offset ← offset
    if offset < word.length then some (offset, word.toList.drop offset) else none
  let current : Except Nat (Nat × Nat × List Char) := match unfinished with
    | some (offset, cs) => .ok (index, offset, cs)
    | none =>
      match (arguments[index - 1]?.getD "").toList with
      | ['-', '-'] => .error (index + 1)
      | '-' :: c :: cs => .ok (index + 1, 1, c :: cs)
      | _ => .error index
  match current with
  | .error index => .error index
  | .ok (_, _, []) => .error index
  | .ok (index, offset, letter :: rest) =>
    let silent := letters.head? = some ':'
    let behind := (index, some (offset + 1))
    let named := some (String.ofList [letter])
    match wantsValue? letter letters with
    | none => .ok { place := behind
                    value := if silent then named else none
                    complaint := if silent then none else some ("Illegal option -" ++ String.ofList [letter]) }
    | some false => .ok { letter, value := some "", place := behind }
    | some true =>
      if !rest.isEmpty then .ok { letter, value := some (String.ofList rest), place := (index, none) }
      else match arguments[index - 1]? with
        | some value => .ok { letter, value := some value, place := (index + 1, none) }
        | none =>
          if silent then .ok { letter := ':', value := named, place := (index, none) }
          else .ok { place := (index, none)
                     complaint := some ("No arg for -" ++ String.ofList [letter] ++ " option") }

def runGetopts (words : List Octets) : Step Nat := do
  let (_, words) ← Step.readOptions "" words
  match words with
  | letters :: name :: rest =>
    let m ← Step.memory
    let arguments := if rest.isEmpty then m.parameters else rest
    let place := if m.optionPlace.1 ≤ arguments.length + 1 then m.optionPlace else (1, none)
    let finish (letter : Char) (place : Nat × Option Nat) : Step Unit := do
      Step.setVariable "OPTIND" (some (toString place.1))
      Step.remember fun m => { m with optionPlace := place }
      Step.setVariable name (some (String.ofList [letter]))
    match nextOption? letters.toList arguments place with
    | .error index =>
      finish '?' (index, none)
      return 1
    | .ok o =>
      if let some text := o.complaint then Step.sayError (text ++ "\n")
      match o.value with
      | some value => Step.setVariable "OPTARG" (some value)
      | none => Step.unsetVariable "OPTARG"
      finish o.letter o.place
      return 0
  | _ => Step.fail "Usage: getopts optstring var [arg...]"

end CommandPipeline.Platform.Shell
