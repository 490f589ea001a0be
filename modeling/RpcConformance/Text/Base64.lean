/-!
# Base64

The standard alphabet. Writing never pads; reading accepts a text with all, some or none of
its padding, and refuses foreign characters, a lone last symbol and unused bits that are not
zero, so that a byte string has one unpadded spelling.
-/

namespace RpcConformance.Base64

/-- The symbol of a value below 64. -/
def symbol (n : Nat) : Char :=
  if n < 26 then Char.ofNat (65 + n)
  else if n < 52 then Char.ofNat (71 + n)
  else if n < 62 then Char.ofNat (n - 4)
  else if n = 62 then '+'
  else '/'

/-- The value of a symbol. -/
def symbolValue? (c : Char) : Option Nat :=
  let n := c.toNat
  if 65 ≤ n ∧ n ≤ 90 then some (n - 65)
  else if 97 ≤ n ∧ n ≤ 122 then some (n - 71)
  else if 48 ≤ n ∧ n ≤ 57 then some (n + 4)
  else if c = '+' then some 62
  else if c = '/' then some 63
  else none

/-- Writes three bytes as four symbols; one or two last bytes as two or three. -/
def encode : List UInt8 → List Char
  | [] => []
  | [a] =>
    [symbol (a.toNat / 4), symbol (a.toNat % 4 * 16)]
  | [a, b] =>
    [symbol (a.toNat / 4), symbol (a.toNat % 4 * 16 + b.toNat / 16), symbol (b.toNat % 16 * 4)]
  | a :: b :: c :: rest =>
    symbol (a.toNat / 4) :: symbol (a.toNat % 4 * 16 + b.toNat / 16)
      :: symbol (b.toNat % 16 * 4 + c.toNat / 64) :: symbol (c.toNat % 64) :: encode rest

/-- Regroups values of six bits into bytes; the bits left over must be zero. -/
def regroup? : List Nat → Option (List UInt8)
  | [] => some []
  | [_] => none
  | [a, b] =>
    if b % 16 = 0 then some [UInt8.ofNat (a * 4 + b / 16)] else none
  | [a, b, c] =>
    if c % 4 = 0 then
      some [UInt8.ofNat (a * 4 + b / 16), UInt8.ofNat (b % 16 * 16 + c / 4)]
    else none
  | a :: b :: c :: d :: rest =>
    (regroup? rest).map fun bytes =>
      UInt8.ofNat (a * 4 + b / 16) :: UInt8.ofNat (b % 16 * 16 + c / 4)
        :: UInt8.ofNat (c % 4 * 64 + d) :: bytes

/-- How many `=` may follow `n` symbols: as many as complete the last group of four. -/
def paddingAllowed (n : Nat) : Nat :=
  match n % 4 with
  | 2 => 2
  | 3 => 1
  | _ => 0

/-- Reads a text with or without its padding. -/
def decode? (text : List Char) : Option (List UInt8) :=
  let symbols := text.takeWhile (· ≠ '=')
  let padding := text.dropWhile (· ≠ '=')
  if padding.all (· == '=') ∧ padding.length ≤ paddingAllowed symbols.length then
    (symbols.mapM symbolValue?).bind regroup?
  else none

end RpcConformance.Base64
