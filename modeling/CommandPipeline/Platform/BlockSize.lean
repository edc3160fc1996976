import CommandPipeline.Platform.Numeral
import CommandPipeline.Platform.Options

/-! How sizes of files are shown: as a count of blocks of some size, or in the unit that suits a size
best. A size that is no whole count is rounded up. -/
namespace CommandPipeline.Platform

open Text (Octets)

inductive BlockSize where
  /-- A count of blocks, with letters behind it. -/
  | counted (size : Nat) (letters : String)
  /-- The greatest unit that is not greater than the size, among the powers of a base. -/
  | scaled (base : Nat)
  deriving DecidableEq, Repr

namespace BlockSize

def powerLetters : List Char := "KMGTPEZY".toList

/-- The letter of a power of a base. -/
def powerLetter (base power : Nat) : String :=
  if power = 0 then ""
  else if base = 1000 ∧ power = 1 then "k"
  else String.ofList (powerLetters[power - 1]?).toList

def divideUp (n d : Nat) : Nat := (n + d - 1) / d

/-- A size in the greatest unit that fits. Less than ten units are shown with a digit behind the
point. -/
def scale (base : Nat) : (fuel : Nat) → (power : Nat) → Nat → String
  | 0, _, bytes => toString bytes
  | fuel + 1, power, bytes =>
    let unit := Nat.pow base power
    let tenths := divideUp (bytes * 10) unit
    let whole := divideUp bytes unit
    if power ≠ 0 ∧ tenths < 100 then
      toString (tenths / 10) ++ "." ++ toString (tenths % 10) ++ powerLetter base power
    else if whole < base then toString whole ++ powerLetter base power
    else scale base fuel (power + 1) bytes

def text (b : BlockSize) (bytes : Nat) : String :=
  match b with
  | .counted size letters => toString (divideUp bytes size) ++ letters
  | .scaled base => scale base powerLetters.length 0 bytes

/-! ### Reading -/

inductive Fault where
  | noNumber
  | badLetters
  | tooLarge
  deriving DecidableEq, Repr

def words : Choices Nat := [(["human-readable"], 1024), (["si"], 1000)]

/-- Reads a number and the letters of a unit, of which one may be missing. -/
def counted? (text : List Char) : Except Fault BlockSize := do
  let cs := text.dropWhile isSpace
  let unsigned := if cs.head? = some '+' then cs.tail else cs
  if cs.head? = some '-' then .error .noNumber
  let number := natural? unsigned
  let (n, rest) := match number with
    | some (n, rest) => (n, rest)
    | none => (1, text)
  let (power, rest) ← match rest with
    | [] => if number.isSome then .ok (0, []) else .error .noNumber
    | c :: rest =>
      if "EGgkKMmPTtYZ".toList.contains c then
        .ok ((powerLetters.findIdx? (· == c.toUpper)).elim 0 (· + 1), rest)
      else .error (if number.isSome || "epyz".toList.contains c then .badLetters else .noNumber)
  let base ← match power, rest with
    | _, [] => .ok 1024
    | _ + 1, ['B'] => .ok 1000
    | _ + 1, ['D'] => .ok 1000
    | _ + 1, ['i', 'B'] => .ok 1024
    | _, _ => .error .badLetters
  let size := n * Nat.pow base power
  if UInt64.size ≤ size then .error .tooLarge
  if size = 0 then .error .noNumber
  let letters := powerLetter (if rest = ['D'] then 1024 else base) power ++
    (if rest = ['i', 'B'] then "iB" else if rest = ['B'] then "B" else "")
  .ok (.counted size (if number.isSome then "" else letters))

/-- Reads a size of blocks. An apostrophe in front asks for signs between thousands, which there are
none of. -/
def parse (word : Octets) : Except Fault BlockSize :=
  let word := if word.toList.head? = some (Char.ofNat 0x27) then String.ofList word.toList.tail else word
  match words.value? word with
  | some (some base) => .ok (.scaled base)
  | _ => counted? word.toList

end BlockSize

end CommandPipeline.Platform
