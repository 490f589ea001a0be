/-!
# Hexadecimal digits

Digits are read in either case. A digit is named by its code, which is the same in ASCII bytes
and in characters.

## Main results

* `value?_lowerDigit`: a digit that was written in lower case is read back.
-/

namespace RpcConformance.Hexadecimal

/-- The value of the digit with a code. -/
def value? (code : Nat) : Option Nat :=
  if 48 ≤ code ∧ code ≤ 57 then some (code - 48)
  else if 65 ≤ code ∧ code ≤ 70 then some (code - 55)
  else if 97 ≤ code ∧ code ≤ 102 then some (code - 87)
  else none

/-- The code of the lower-case digit of a value below 16. -/
def lowerDigit (n : Nat) : Nat := if n < 10 then 48 + n else 87 + n

/-- The code of the upper-case digit of a value below 16. -/
def upperDigit (n : Nat) : Nat := if n < 10 then 48 + n else 55 + n

/-- The numeral of `n` in lower-case digits, most significant first. -/
def digits (n : Nat) : List Char := Nat.toDigits 16 n

theorem value?_lowerDigit {n : Nat} (h : n < 16) : value? (lowerDigit n) = some n := by
  unfold value? lowerDigit
  grind

end RpcConformance.Hexadecimal
