import CommandPipeline.Text.Blank

/-! The smallest pieces of a pattern are characters and escapes. What a piece may be depends on the
mode in force where it stands. -/
namespace CommandPipeline.Log.Pattern

structure Mode where
  /-- Blanks and comments between the pieces are passed over. -/
  spaced : Bool := false
  /-- Sets range over characters, and not over octets. -/
  unicode : Bool := true

namespace Mode

def isFlag (c : Char) : Bool := "imsUuRx".toList.contains c

/-- The mode behind a run of flags, of which each counts once and those behind a hyphen are off. -/
def withFlags? (m : Mode) (flags : List Char) : Option Mode :=
  let on := flags.takeWhile (· != '-')
  let off := flags.drop on.length
  if flags.all (fun c => isFlag c || c == '-') && flags.eraseDups.length == flags.length &&
      flags.getLast? != some '-' then
    some ⟨(m.spaced || on.contains 'x') && !off.contains 'x',
      (m.unicode || on.contains 'u') && !off.contains 'u'⟩
  else none

/-- What is behind the blanks and comments at the beginning of the text. -/
def skipFrom : (fuel : Nat) → (comment : Bool) → List Char → List Char
  | 0, _, cs => cs
  | _ + 1, _, [] => []
  | fuel + 1, true, c :: cs => skipFrom fuel (c != '\n') cs
  | fuel + 1, false, c :: cs =>
    if Text.isBlank c then skipFrom fuel false cs
    else if c = '#' then skipFrom fuel true cs
    else c :: cs

def skip (m : Mode) (cs : List Char) : List Char :=
  if m.spaced then skipFrom cs.length false cs else cs

/-- The first character that counts. A blank comment sign in front of it is passed over once. -/
def peek? (m : Mode) (cs : List Char) : Option Char :=
  if !m.spaced then cs.head?
  else
    let rest := cs.dropWhile Text.isBlank
    let rest := if rest.head? = some '#' then rest.tail.dropWhile Text.isBlank else rest
    if rest.isEmpty then cs.head? else rest.head?

end Mode

/-! ### Escapes -/

inductive Piece where
  | char (c : Char)
  /-- A set that has a name. -/
  | named
  /-- A place between two characters. -/
  | place

def digit? (c : Char) : Option Nat :=
  if c.isDigit then some (c.toNat - 48)
  else if 'a' ≤ c ∧ c ≤ 'f' then some (c.toNat - 87)
  else if 'A' ≤ c ∧ c ≤ 'F' then some (c.toNat - 55)
  else none

/-- Reads a number of hexadecimal digits, with the blanks behind each. -/
def digits? (m : Mode) : (count : Nat) → (value : Nat) → List Char → Option (Nat × List Char)
  | 0, value, cs => some (value, cs)
  | count + 1, value, cs => do
    let c ← cs.head?
    let d ← digit? c
    digits? m count (value * 16 + d) (m.skip cs.tail)

/-- A character by its number. Without characters a number of two digits is an octet, and has to be one
that is a character by itself. -/
def numbered? (m : Mode) (count : Nat) (cs : List Char) : Option (Piece × List Char) := do
  let (n, rest) ← digits? m count 0 (m.skip cs)
  if !n.isValidChar then none
  else if count = 2 ∧ !m.unicode ∧ 0x80 ≤ n then none
  else some (.char (Char.ofNat n), rest)

/-- The letters of the general categories that consist of others, in any case. -/
def isCategory (c : Char) : Bool := "clmnpsz".toList.contains c.toLower

/-- Reads what is behind a backslash. Sets of characters need a mode with characters, and word
boundaries one without. -/
def escape? (m : Mode) : List Char → Option (Piece × List Char)
  | [] => none
  | c :: cs =>
    if c = 'x' then numbered? m 2 cs
    else if c = 'u' then numbered? m 4 cs
    else if c = 'U' then numbered? m 8 cs
    else if c = 'p' ∨ c = 'P' then
      match m.skip cs with
      | [] => none
      | d :: rest => if isCategory d && m.unicode then some (.named, m.skip rest) else none
    else if "dsw".toList.contains c then some (.named, cs)
    else if "DSW".toList.contains c then if m.unicode then some (.named, cs) else none
    else if "bB<>".toList.contains c then if m.unicode then none else some (.place, cs)
    else if c = 'A' ∨ c = 'z' then some (.place, cs)
    else if "aftnrv".toList.contains c then
      let code := match c with | 'a' => 7 | 'f' => 12 | 't' => 9 | 'n' => 10 | 'r' => 13 | _ => 11
      some (.char (Char.ofNat code), cs)
    else if c.isAlphanum || 0x80 ≤ c.toNat then none
    else some (.char c, cs)

end CommandPipeline.Log.Pattern
