import CommandPipeline.Platform.Numeral

/-! Backslash escapes in the arguments of programs. The programs differ in the sequences that they
know, so these are a parameter. -/
namespace CommandPipeline.Platform

open Text (Octets)

/-- The escape sequences that a program knows besides the common ones. -/
structure EscapeSet where
  /-- Whether a zero may stand before the three octal digits. -/
  leadingZero : Bool := false
  /-- Hexadecimal digits behind an x. -/
  hex : Bool := false
  /-- The double quote. -/
  quote : Bool := false
  /-- The end of all output by the letter c. -/
  stop : Bool := true

namespace EscapeSet

/-- What an escape sequence stands for. -/
structure Escaped where
  text : List Char
  rest : List Char
  /-- Whether the output ends here. -/
  ends : Bool := false

/-- The characters that have a letter of their own in every program. -/
def common : List (Char × Nat) :=
  [('\\', 92), ('a', 7), ('b', 8), ('e', 27), ('f', 12), ('n', 10), ('r', 13), ('t', 9), ('v', 11)]

/-- The byte that a number stands for. -/
def byte (n : Nat) : List Char := [Char.ofNat (n % 256)]

/-- Reads what follows a backslash. -/
def escape (e : EscapeSet) : List Char → Escaped
  | [] => ⟨['\\'], [], false⟩
  | c :: rest =>
    match common.lookup c with
    | some n => ⟨byte n, rest, false⟩
    | none =>
      if c = 'c' ∧ e.stop then ⟨[], [], true⟩
      else if c.toNat = 34 ∧ e.quote then ⟨[c], rest, false⟩
      else if (octalValue? c).isSome then
        let (n, rest) := takeDigits 8 octalValue? 3 (if c = '0' ∧ e.leadingZero then rest else c :: rest) 0
        ⟨byte n, rest, false⟩
      else if c = 'x' ∧ e.hex ∧ (rest.head?.bind hexValue?).isSome then
        let (n, rest) := takeDigits 16 hexValue? 2 rest 0
        ⟨byte n, rest, false⟩
      else ⟨['\\', c], rest, false⟩

/-- A text with its escapes replaced, and whether one of them ended the output. -/
def replaceWithin (e : EscapeSet) : (fuel : Nat) → List Char → List Char × Bool
  | 0, _ => ([], false)
  | _ + 1, [] => ([], false)
  | fuel + 1, c :: cs =>
    if c = '\\' then
      let r := e.escape cs
      if r.ends then (r.text, true)
      else
        let (later, ends) := replaceWithin e fuel r.rest
        (r.text ++ later, ends)
    else
      let (later, ends) := replaceWithin e fuel cs
      (c :: later, ends)

def replace (e : EscapeSet) (s : Octets) : List Char × Bool :=
  e.replaceWithin (s.length + 1) s.toList

end EscapeSet

end CommandPipeline.Platform
