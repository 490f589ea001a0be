import RpcConformance.Word

/-!
# Decimal numerals

Numbers are written without leading zeros and read back by their digits alone; a sign is the
business of the caller.
-/

namespace RpcConformance.Decimal

/-- The character of a digit below ten. -/
def digitChar (d : Nat) : Char := Char.ofNat (48 + d)

/-- The digits of `n`, most significant first. -/
def digits (n : Nat) : List Char :=
  if n < 10 then [digitChar n] else digits (n / 10) ++ [digitChar (n % 10)]
termination_by n
decreasing_by omega

/-- The numeral of `n`. -/
def text (n : Nat) : String := String.ofList (digits n)

/-- The numeral of an integer, with `-` before a negative one. -/
def signedDigits : Int → List Char
  | .ofNat n => digits n
  | .negSucc n => '-' :: digits (n + 1)

/-- The numeral of an integer as a text. -/
def signedText (i : Int) : String := String.ofList (signedDigits i)

/-- ASCII digits only. -/
def isDigit (c : Char) : Bool := 48 ≤ c.toNat && c.toNat ≤ 57

/-- The value of an ASCII digit. -/
def digitValue (c : Char) : Nat := c.toNat - 48

/-- The value that a list of digits stands for, after the digits that stand for `acc`. -/
def valueFrom (acc : Nat) : List Char → Nat
  | [] => acc
  | c :: cs => valueFrom (acc * 10 + digitValue c) cs

/-- The value that a list of digits stands for. -/
def value (cs : List Char) : Nat := valueFrom 0 cs

/-- Reads a nonempty list of ASCII digits. -/
def value? (cs : List Char) : Option Nat :=
  if !cs.isEmpty && cs.all isDigit then some (value cs) else none

/-- Reads an unsigned number below `2 ^ bits`; one `+` may stand before it. -/
def unsigned? (bits : Nat) (s : String) : Option Nat :=
  let cs := match s.toList with
    | '+' :: rest => rest
    | cs => cs
  (value? cs).filter (· < powerOfTwo bits)

/-- Right-aligns a text in `width` columns. -/
def padLeft (width : Nat) (cs : List Char) : List Char :=
  List.replicate (width - cs.length) ' ' ++ cs

end RpcConformance.Decimal
