import RpcConformance.Text.Decimal

/-!
# Binary floating point of 64 bits

Reports show means and percentages that were computed with a significand of 53 bits, and
numbers that were read from decimal numerals. Each operation rounds to the nearest value that
can be represented, and a tie to the even one. The values here are not negative and are kept
exactly as `significand * 2 ^ exponent`. Below the normal range the exponent stays at its least
value; above it a value is infinite.
-/

namespace RpcConformance

/-- A nonnegative value `significand * 2 ^ exponent`. -/
structure Binary64 where
  significand : Nat
  exponent : Int
deriving DecidableEq

namespace Binary64

/-- The quotient rounded to the nearest whole number, a tie to the even one. -/
def roundDiv (num den : Nat) : Nat :=
  let q := num / den
  let r := num % den
  if 2 * r < den then q
  else if den < 2 * r then q + 1
  else if q % 2 = 0 then q else q + 1

/-- Multiplies a fraction by a power of two. -/
def scaleFraction (num den : Nat) (shift : Int) : Nat × Nat :=
  if 0 ≤ shift then (num * powerOfTwo shift.toNat, den) else (num, den * powerOfTwo (-shift).toNat)

/-- The least exponent is the negative of this one. -/
def leastExponent : Int := 1074

/-- The representable value nearest to a fraction. The first shift brings the quotient near
the range of 53 bits, and the second one into it, as far as the exponent may go. -/
def ofFraction (num den : Nat) : Binary64 :=
  if num = 0 ∨ den = 0 then ⟨0, 0⟩
  else
    let guess : Int := 53 - ((Nat.log2 num : Int) - Nat.log2 den)
    let (n, d) := scaleFraction num den guess
    let shift := min leastExponent (if powerOfTwo 53 ≤ n / d then guess - 1 else guess)
    let (n, d) := scaleFraction num den shift
    ⟨roundDiv n d, -shift⟩

/-- The value as a fraction. -/
def toFraction (x : Binary64) : Nat × Nat := scaleFraction x.significand 1 x.exponent

/-- The representable value nearest to a natural number. -/
def ofNat (n : Nat) : Binary64 := ofFraction n 1

def mul (x y : Binary64) : Binary64 :=
  let (a, b) := x.toFraction
  let (c, d) := y.toFraction
  ofFraction (a * c) (b * d)

def div (x y : Binary64) : Binary64 :=
  let (a, b) := x.toFraction
  let (c, d) := y.toFraction
  ofFraction (a * d) (b * c)

/-- The value is past the last one that can be represented. -/
def isInfinite (x : Binary64) : Bool :=
  let (num, den) := x.toFraction
  powerOfTwo 1024 * den ≤ num

/-- Two values are the same number. -/
def equals (x y : Binary64) : Bool :=
  let (a, b) := x.toFraction
  let (c, d) := y.toFraction
  a * d == c * b

/-- The largest power of ten that can be represented. -/
def maxTens : Nat := 308

/-- A representable power of ten. -/
def tens (k : Nat) : Binary64 := ofNat (Nat.pow 10 k)

/-- Multiplies by a power of ten, rounding after each step, unless the result is infinite. A
value that has to be divided more than `steps` times is too small to matter. -/
def scaleTens? (x : Binary64) (exponent : Int) : Nat → Option Binary64
  | 0 => some x
  | steps + 1 =>
    if exponent.natAbs ≤ maxTens then
      if 0 ≤ exponent then
        let y := x.mul (tens exponent.natAbs)
        if y.isInfinite then none else some y
      else some (x.div (tens exponent.natAbs))
    else if x.significand = 0 then some x
    else if 0 ≤ exponent then none
    else scaleTens? (x.div (tens maxTens)) (exponent + maxTens) steps

/-- The value that is read from a whole number of at most 64 bits and a power of ten: the
number is rounded first, and then its product with the power. There is none where the result
would be infinite. -/
def ofDecimal? (digits : Nat) (exponent : Int) : Option Binary64 :=
  scaleTens? (ofNat digits) exponent 4

/-- The exact value with two decimals, a tie to the even last digit. -/
def twoPlaces (x : Binary64) : List Char :=
  let (num, den) := x.toFraction
  let hundredths := roundDiv (num * 100) den
  Decimal.digits (hundredths / 100)
    ++ ['.', Decimal.digitChar (hundredths % 100 / 10), Decimal.digitChar (hundredths % 10)]

end Binary64

end RpcConformance
