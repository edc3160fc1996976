import CommandPipeline.Number.Binary64
import CommandPipeline.Text.Octets

/-! Numbers as programs read them: whole numbers in three bases, and floating point numbers of a given
format, which are exact rationals here. -/
namespace CommandPipeline.Platform

open Text (Octets)

/-- A blank in the sense of programs, which look at bytes. -/
def isSpace (c : Char) : Bool := c == ' ' || (9 ≤ c.toNat && c.toNat ≤ 13)

/-! ### Digits -/

def octalValue? (c : Char) : Option Nat :=
  if '0' ≤ c ∧ c ≤ '7' then some (c.toNat - 48) else none

def decimalValue? (c : Char) : Option Nat :=
  if c.isDigit then some (c.toNat - 48) else none

def hexValue? (c : Char) : Option Nat :=
  if c.isDigit then some (c.toNat - 48)
  else if 'a' ≤ c ∧ c ≤ 'f' then some (c.toNat - 87)
  else if 'A' ≤ c ∧ c ≤ 'F' then some (c.toNat - 55)
  else none

/-- Reads at most `most` digits of a base. -/
def takeDigits (base : Nat) (value? : Char → Option Nat) : (most : Nat) → List Char → Nat → Nat × List Char
  | 0, cs, n => (n, cs)
  | _ + 1, [], n => (n, [])
  | most + 1, c :: cs, n =>
    match value? c with
    | some v => takeDigits base value? most cs (n * base + v)
    | none => (n, c :: cs)

/-- Reads all digits of a base in front, if there are any. -/
def digits? (base : Nat) (value? : Char → Option Nat) (cs : List Char) : Option (Nat × List Char) :=
  if cs.head?.any fun c => (value? c).isSome then some (takeDigits base value? cs.length cs 0) else none

/-- The sign in front of digits, and what follows it. -/
def takeSign (cs : List Char) : Bool × List Char :=
  match cs with
  | '-' :: rest => (true, rest)
  | '+' :: rest => (false, rest)
  | rest => (false, rest)

/-! ### Whole numbers -/

/-- A number without a sign: decimal, or behind a mark hexadecimal or octal. -/
def natural? (cs : List Char) : Option (Nat × List Char) :=
  match cs with
  | '0' :: x :: rest =>
    if x = 'x' ∨ x = 'X' then some ((digits? 16 hexValue? rest).getD (0, x :: rest))
    else digits? 8 octalValue? cs
  | cs => digits? 10 decimalValue? cs

/-- A number that has been read: its value, whether it was beyond the range, and what follows it. -/
structure Read (α : Type) where
  value : α
  beyond : Bool := false
  rest : List Char

/-- Reads a whole number of 64 bits. Without a sign of its own the number is taken modulo `2 ^ 64`.
Numbers beyond the range become the nearest bound. -/
def readInteger? (signed : Bool) (number? : List Char → Option (Nat × List Char)) (cs : List Char) :
    Option (Read Int) :=
  let (negative, cs) := takeSign (cs.dropWhile isSpace)
  (number? cs).map fun (n, rest) =>
    let bound : Nat := if !signed then UInt64.size - 1
      else if negative then 0x8000000000000000 else 0x7FFFFFFFFFFFFFFF
    let kept := min n bound
    let value : Int := if !negative then kept else if signed then -(kept : Int)
      else if bound < n then bound else (UInt64.size - kept : Int) % UInt64.size
    { value, beyond := bound < n, rest }

/-- A whole number with an optional minus sign, which is all of the text. -/
def wholeNumber? (s : Octets) : Option Int :=
  let all? (cs : List Char) : Option Nat :=
    match digits? 10 decimalValue? cs with
    | some (n, []) => some n
    | _ => none
  match s.toList with
  | '-' :: cs => (all? cs).map fun n => -(n : Int)
  | cs => (all? cs).map fun n => (n : Int)

/-! ### Floating point numbers -/

inductive Quantity where
  | finite (negative : Bool) (size : Rat)
  | infinite (negative : Bool)
  | notNumber (negative : Bool)
  deriving DecidableEq

structure FloatFormat where
  /-- The significant bits. -/
  bits : Nat
  /-- The exponents of the least normal number and of the greatest one. -/
  least : Int
  greatest : Int

/-- The value of a finite number. -/
def Quantity.toRat : Quantity → Rat
  | .finite negative size => if negative then -size else size
  | _ => 0

namespace FloatFormat

def double : FloatFormat := ⟨53, -1022, 1023⟩

def extended : FloatFormat := ⟨64, -16382, 16383⟩

/-- The number that is nearest to `num / den`, and whether it is beyond the range: too large, or so
small that significant bits are lost. -/
def round (f : FloatFormat) (negative : Bool) (num den : Nat) : Quantity × Bool :=
  if num = 0 then (.finite negative 0, false)
  else
    let e := Number.binaryExponent num den
    let unit := max e f.least - ((f.bits : Int) - 1)
    let (num', den') := if 0 ≤ unit then (num, den * Nat.pow 2 unit.toNat)
      else (num * Nat.pow 2 (-unit).toNat, den)
    let n := Number.roundDiv num' den'
    let size : Rat := if 0 ≤ unit then (n * Nat.pow 2 unit.toNat : Nat)
      else mkRat n (Nat.pow 2 (-unit).toNat)
    if (Nat.pow 2 (f.greatest + 1).toNat : Nat) ≤ size then (.infinite negative, true)
    else (.finite negative size, e < f.least && num' % den' != 0)

/-- The number `n * 10 ^ power`. -/
def ofDecimal (f : FloatFormat) (negative : Bool) (n : Nat) (power : Int) : Quantity × Bool :=
  let length : Int := (Nat.toDigits 10 n).length
  if n = 0 then (.finite negative 0, false)
  else if 6000 < length + power then (.infinite negative, true)
  else if length + power < -6000 then (.finite negative 0, true)
  else if 0 ≤ power then f.round negative (n * Nat.pow 10 power.toNat) 1
  else f.round negative n (Nat.pow 10 (-power).toNat)

/-- The number `n * 2 ^ power`. -/
def ofBinary (f : FloatFormat) (negative : Bool) (n : Nat) (power : Int) : Quantity × Bool :=
  let length : Int := Nat.log2 n
  if n = 0 then (.finite negative 0, false)
  else if 20000 < length + power then (.infinite negative, true)
  else if length + power < -20000 then (.finite negative 0, true)
  else if 0 ≤ power then f.round negative (n * Nat.pow 2 power.toNat) 1
  else f.round negative n (Nat.pow 2 (-power).toNat)

end FloatFormat

/-- Digits with a point somewhere: the number that they are without the point, how many stand behind
it, and what follows them. -/
def pointedDigits? (base : Nat) (value? : Char → Option Nat) (cs : List Char) :
    Option (Nat × Nat × List Char) :=
  let (whole, rest) := takeDigits base value? cs.length cs 0
  let point : Bool := rest.head? == some '.'
  let behind := if point then rest.tail else rest
  let (all, rest') := if point then takeDigits base value? behind.length behind whole else (whole, rest)
  let places := behind.length - rest'.length
  if cs.length - rest.length + places = 0 then none
  else some (all, if point then places else 0, rest')

/-- An exponent behind one of two letters, if it has digits. -/
def exponent (lower upper : Char) (cs : List Char) : Int × List Char :=
  match cs with
  | c :: rest =>
    if c = lower ∨ c = upper then
      let (negative, rest') := takeSign rest
      match digits? 10 decimalValue? rest' with
      | some (n, rest) => (if negative then -(n : Int) else n, rest)
      | none => (0, cs)
    else (0, cs)
  | [] => (0, [])

/-- What follows a word in any case. -/
def afterWord? (word : String) (cs : List Char) : Option (List Char) :=
  if (cs.take word.length).map Char.toLower = word.toList then some (cs.drop word.length) else none

/-- Reads a floating point number: its name, or its digits in base ten or sixteen. -/
def FloatFormat.read? (f : FloatFormat) (cs : List Char) : Option (Read Quantity) :=
  let (negative, cs) := takeSign (cs.dropWhile isSpace)
  match afterWord? "infinity" cs, afterWord? "inf" cs, afterWord? "nan" cs with
  | some rest, _, _ | none, some rest, _ => some { value := .infinite negative, rest }
  | none, none, some rest =>
    let inside := rest.tail.takeWhile fun c => c.isAlphanum || c == '_'
    let closed : Bool := rest.head? == some '(' && rest[inside.length + 1]? == some ')'
    some { value := .notNumber negative, rest := if closed then rest.drop (inside.length + 2) else rest }
  | none, none, none =>
    let hex := match afterWord? "0x" cs with
      | some rest => pointedDigits? 16 hexValue? rest
      | none => none
    match hex with
    | some (n, places, rest) =>
      let (power, rest) := exponent 'p' 'P' rest
      let (value, beyond) := f.ofBinary negative n (power - 4 * places)
      some { value, beyond, rest }
    | none =>
      (pointedDigits? 10 decimalValue? cs).map fun (n, places, rest) =>
        let (power, rest) := exponent 'e' 'E' rest
        let (value, beyond) := f.ofDecimal negative n (power - places)
        { value, beyond, rest }

end CommandPipeline.Platform
