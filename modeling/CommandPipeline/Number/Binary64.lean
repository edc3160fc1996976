/-! Binary floating point as exact rationals: rounding to the nearest number with a given count of
significant bits, mostly 53, and of two equally near ones to the one with the even significand. -/
namespace CommandPipeline.Number

/-- The integer nearest to `num / den`, a half going to the even neighbour. -/
def roundDiv (num den : Nat) : Nat :=
  let q := num / den
  let r := num % den
  if 2 * r < den then q
  else if den < 2 * r then q + 1
  else if q % 2 = 0 then q else q + 1

/-- The exponent `e` with `2 ^ e ≤ num / den < 2 ^ (e + 1)`. -/
def binaryExponent (num den : Nat) : Int :=
  let e : Int := (Nat.log2 num : Int) - (Nat.log2 den : Int)
  let reached : Bool :=
    if 0 ≤ e then den * Nat.pow 2 e.toNat ≤ num else den ≤ num * Nat.pow 2 (-e).toNat
  if reached then e else e - 1

/-- The number with the given count of significant bits that is nearest to `num / den`, for a
quotient within the range of normal numbers. -/
def nearest (bits num den : Nat) : Rat :=
  if num = 0 ∨ den = 0 then 0
  else
    let shift := (bits : Int) - 1 - binaryExponent num den
    if 0 ≤ shift then mkRat (roundDiv (num * Nat.pow 2 shift.toNat) den) (Nat.pow 2 shift.toNat)
    else (roundDiv num (den * Nat.pow 2 (-shift).toNat) * Nat.pow 2 (-shift).toNat : Nat)

def nearest53 (num den : Nat) : Rat := nearest 53 num den

/-- The nearest such number of a rational that is not negative. -/
def round53 (x : Rat) : Rat := nearest53 x.num.toNat x.den

/-! ### Decimal text -/

/-- The hundredths nearest to a rational that is not negative, a half going to the even neighbour. -/
def hundredths (x : Rat) : Nat := roundDiv (x.num.toNat * 100) x.den

/-- A number of hundredths with two decimal places. -/
def twoPlaces (n : Nat) : String :=
  toString (n / 100) ++ "." ++ toString (n % 100 / 10) ++ toString (n % 10)

end CommandPipeline.Number
