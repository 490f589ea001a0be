import RpcConformance.Text.Binary64

/-!
# The shortest numeral of a floating-point value

A value is written with the fewest digits that read back to it, and of these with the ones
nearest to it. Values of common size are written with a point in its place and a digit after
it; others with a point after the first digit, if there are more, and a signed exponent.
-/

namespace RpcConformance.Binary64

/-- The value `digits * 10 ^ -places`. -/
structure Scaled where
  digits : Nat
  places : Int
deriving DecidableEq

namespace Scaled

/-- The number as a fraction. -/
def toFraction (s : Scaled) : Nat × Nat :=
  if 0 ≤ s.places then (s.digits, Nat.pow 10 s.places.natAbs)
  else (s.digits * Nat.pow 10 s.places.natAbs, 1)

/-- The number reads back to a value. -/
def readsBack (s : Scaled) (x : Binary64) : Bool :=
  let (num, den) := s.toFraction
  (ofFraction num den).equals x

end Scaled

/-- The place of the first digit of a positive fraction: zero for ones, and negative after the
point. -/
def firstPlace (num den : Nat) : Int :=
  if den ≤ num then ((Decimal.digits (num / den)).length : Int) - 1
  else -((Decimal.digits (den / num)).length : Int)

/-- The number with `count` digits that is nearest to a positive value, if it reads back, or
else its neighbour on the other side of the value, if that does. -/
def withDigits? (x : Binary64) (count : Nat) : Option Scaled :=
  let (num, den) := x.toFraction
  let places := (count : Int) - 1 - firstPlace num den
  let (num, den) :=
    if 0 ≤ places then (num * Nat.pow 10 places.natAbs, den)
    else (num, den * Nat.pow 10 places.natAbs)
  let below : Scaled := ⟨num / den, places⟩
  let above : Scaled := ⟨num / den + 1, places⟩
  let nearest := if roundDiv num den = num / den then [below, above] else [above, below]
  nearest.find? (·.readsBack x)

/-- Seventeen digits tell all values apart. -/
def maxDigits : Nat := 17

/-- The shortest decimal number that reads back to a positive value. -/
def shortest (x : Binary64) : Scaled :=
  ((List.range maxDigits).findSome? fun k => x.withDigits? (k + 1)).getD ⟨0, 0⟩

/-- Zeros at the end of a list are left out, but not the first element. -/
def withoutZeros (cs : List Char) : List Char :=
  cs.take 1 ++ ((cs.drop 1).reverse.dropWhile (· == '0')).reverse

/-- Exponents of the first digit from here on are written as such. -/
def exponentFrom : Int := 16

/-- Exponents of the first digit below this one are written as such. -/
def exponentBelow : Int := -5

/-- Digits of which the first stands for ones, with a point after it. -/
def pointed (cs : List Char) : List Char :=
  match cs with
  | [] => []
  | [c] => [c]
  | c :: rest => c :: '.' :: rest

/-- Digits with an exponent of the first one. -/
def layOut (cs : List Char) (exponent : Int) : List Char :=
  if exponent < exponentBelow ∨ exponentFrom ≤ exponent then
    pointed cs ++ 'e' :: (if exponent < 0 then '-' else '+') :: Decimal.digits exponent.natAbs
  else if exponent < 0 then
    '0' :: '.' :: List.replicate (exponent.natAbs - 1) '0' ++ cs
  else
    let whole := exponent.natAbs + 1
    let fraction := cs.drop whole
    cs.take whole ++ List.replicate (whole - cs.length) '0'
      ++ '.' :: (if fraction.isEmpty then ['0'] else fraction)

/-- The shortest numeral of a value. -/
def numeral (x : Binary64) : List Char :=
  if x.significand = 0 then ['0', '.', '0']
  else
    let s := x.shortest
    let cs := Decimal.digits s.digits
    layOut (withoutZeros cs) ((cs.length : Int) - 1 - s.places)

end RpcConformance.Binary64
