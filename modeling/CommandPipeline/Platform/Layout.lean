import CommandPipeline.Platform.Numeral

/-! How numbers and texts are laid out: with a sign, in a width, with a precision. -/
namespace CommandPipeline.Platform

/-- The flags, the width and the precision of a conversion. -/
structure Layout where
  left : Bool := false
  zero : Bool := false
  plus : Bool := false
  blank : Bool := false
  alternate : Bool := false
  width : Nat := 0
  precision : Option Nat := none

namespace Layout

def withFlag (l : Layout) (c : Char) : Layout :=
  match c with
  | '-' => { l with left := true }
  | '0' => { l with zero := true }
  | '+' => { l with plus := true }
  | ' ' => { l with blank := true }
  | '#' => { l with alternate := true }
  | _ => l

def pad (l : Layout) (cs : List Char) : List Char :=
  let fill := List.replicate (l.width - cs.length) ' '
  if l.left then cs ++ fill else fill ++ cs

/-- A text, of which the precision keeps the beginning. -/
def text (l : Layout) (cs : List Char) : List Char :=
  l.pad (match l.precision with
    | some p => cs.take p
    | none => cs)

/-- A number with sign, base mark, zeros and width. -/
def number (l : Layout) (fill : Bool) (sign mark digits : List Char) : List Char :=
  let zeros := if fill && l.zero && !l.left then l.width - (sign.length + mark.length + digits.length) else 0
  l.pad (sign ++ mark ++ List.replicate zeros '0' ++ digits)

def sign (l : Layout) (negative : Bool) : List Char :=
  if negative then ['-'] else if l.plus then ['+'] else if l.blank then [' '] else []

/-! ### Whole numbers -/

/-- The digits of a whole number, of which the precision says how many there are at least. -/
def wholeDigits (l : Layout) (base : Nat) (n : Nat) : List Char :=
  match l.precision with
  | none => Nat.toDigits base n
  | some p =>
    let digits := if n = 0 then [] else Nat.toDigits base n
    List.replicate (p - digits.length) '0' ++ digits

def signed (l : Layout) (n : Int) : List Char :=
  l.number l.precision.isNone (l.sign (n < 0)) [] (l.wholeDigits 10 n.natAbs)

/-- A number without a sign, in the base of a conversion letter. -/
def unsigned (l : Layout) (letter : Char) (n : Nat) : List Char :=
  let base := if letter = 'u' then 10 else if letter = 'o' then 8 else 16
  let digits := l.wholeDigits base n
  let digits := if letter = 'X' then digits.map Char.toUpper else digits
  let digits := if letter = 'o' && l.alternate && digits.head? != some '0' then '0' :: digits else digits
  let mark := if base = 16 && l.alternate && n != 0 then ['0', letter] else []
  l.number l.precision.isNone [] mark digits

/-! ### Decimal notation -/

/-- Digits with a point before the last `places` of them. -/
def withPoint (places : Nat) (alternate : Bool) (n : Nat) : List Char :=
  let digits := Nat.toDigits 10 n
  let digits := List.replicate (places + 1 - digits.length) '0' ++ digits
  let whole := digits.take (digits.length - places)
  if places = 0 then whole ++ (if alternate then ['.'] else [])
  else whole ++ '.' :: digits.drop (digits.length - places)

/-- The nearest number with `places` decimal places. -/
def fixedDigits (places : Nat) (alternate : Bool) (x : Rat) : List Char :=
  withPoint places alternate (Number.roundDiv (x.num.toNat * Nat.pow 10 places) x.den)

/-- The power of ten that leads a positive number, looked for among those up to `high`. -/
def leadingPower (x : Rat) : (steps : Nat) → (high : Int) → Int
  | 0, high => high
  | steps + 1, high =>
    let reached : Bool := if 0 ≤ high then x.den * Nat.pow 10 high.toNat ≤ x.num.toNat
      else x.den ≤ x.num.toNat * Nat.pow 10 (-high).toNat
    if reached then high else leadingPower x steps (high - 1)

/-- The significand with `places` decimal places as a whole number, and its power of ten. -/
def significand (places : Nat) (x : Rat) : Nat × Int :=
  if x.num ≤ 0 then (0, 0)
  else
    let high := Number.binaryExponent x.num.toNat x.den * 30103 / 100000 + 2
    let power := leadingPower x 8 high
    let scale := (places : Int) - power
    let n := if 0 ≤ scale then Number.roundDiv (x.num.toNat * Nat.pow 10 scale.toNat) x.den
      else Number.roundDiv x.num.toNat (x.den * Nat.pow 10 (-scale).toNat)
    if Nat.pow 10 (places + 1) ≤ n then (n / 10, power + 1) else (n, power)

/-- A power with its sign and at least `least` digits. -/
def powerText (least : Nat) (power : Int) : List Char :=
  let digits := Nat.toDigits 10 power.natAbs
  (if power < 0 then '-' else '+') :: (List.replicate (least - digits.length) '0' ++ digits)

def withoutFinalZeros (cs : List Char) : List Char :=
  if cs.contains '.' then
    let kept := cs.reverse.dropWhile (· == '0')
    (if kept.head? = some '.' then kept.tail else kept).reverse
  else cs

/-- The digits of a number that is not negative, in the notation of a conversion letter. -/
def decimalDigits (l : Layout) (letter : Char) (x : Rat) : List Char :=
  let places := l.precision.getD 6
  match letter with
  | 'f' => fixedDigits places l.alternate x
  | 'e' =>
    let (n, power) := significand places x
    withPoint places l.alternate n ++ 'e' :: powerText 2 power
  | _ =>
    let digits := max places 1
    let (n, power) := significand (digits - 1) x
    let tidy (cs : List Char) := if l.alternate then cs else withoutFinalZeros cs
    if -4 ≤ power ∧ power < digits then
      tidy (fixedDigits ((digits : Int) - 1 - power).toNat l.alternate x)
    else tidy (withPoint (digits - 1) l.alternate n) ++ 'e' :: powerText 2 power

/-! ### Hexadecimal notation -/

/-- The digits of a number that is not negative, with a binary exponent. The first digit holds as many
bits of the significand as are left over by the others. -/
def hexDigits (l : Layout) (f : FloatFormat) (x : Rat) : List Char :=
  let behind := (f.bits - 1) / 4
  let e := if x.num ≤ 0 then 0 else max (Number.binaryExponent x.num.toNat x.den) f.least
  let first : Int := if x.num ≤ 0 then 0 else e - ((f.bits : Int) - 1 - 4 * behind)
  let scale := 4 * (behind : Int) - first
  let n := if 0 ≤ scale then x.num.toNat * Nat.pow 2 scale.toNat / x.den
    else x.num.toNat / (x.den * Nat.pow 2 (-scale).toNat)
  let kept := min (l.precision.getD behind) behind
  let n := Number.roundDiv n (Nat.pow 16 (behind - kept))
  let (n, first) := if Nat.pow 16 (kept + 1) ≤ n then (n / 16, first + 4) else (n, first)
  let digits := Nat.toDigits 16 n
  let digits := List.replicate (kept + 1 - digits.length) '0' ++ digits
  let fraction := digits.drop 1 ++ List.replicate (l.precision.getD 0 - kept) '0'
  let fraction := if l.precision.isNone then (fraction.reverse.dropWhile (· == '0')).reverse else fraction
  let point := if fraction.isEmpty && !l.alternate then [] else ['.']
  digits.take 1 ++ point ++ fraction ++ 'p' :: powerText 1 first

/-! ### Floating point numbers -/

/-- A number in the notation of a conversion letter, whose case the letters of the number take. -/
def quantity (l : Layout) (f : FloatFormat) (letter : Char) (q : Quantity) : List Char :=
  let cased (cs : List Char) := if letter.isUpper then cs.map Char.toUpper else cs
  match q with
  | .infinite negative => l.number false (l.sign negative) [] (cased "inf".toList)
  | .notNumber negative => l.number false (l.sign negative) [] (cased "nan".toList)
  | .finite negative x =>
    if letter.toLower = 'a' then
      l.number true (l.sign negative) (cased ['0', 'x']) (cased (l.hexDigits f x))
    else l.number true (l.sign negative) [] (cased (l.decimalDigits letter.toLower x))

end Layout

end CommandPipeline.Platform
