import RpcConformance.Text.Hexadecimal

/-!
# JSON strings

A JSON string escapes the quote, the backslash and every control character, five of which
have short escapes; nothing else is escaped.
-/

namespace RpcConformance.Json

/-- A lower-case hexadecimal digit of a value below 16. -/
def hexDigit (n : Nat) : Char := Char.ofNat (Hexadecimal.lowerDigit n)

/-- The characters that stand for one character inside a JSON string. -/
def escapeChar (c : Char) : List Char :=
  if c = '"' then ['\\', '"']
  else if c = '\\' then ['\\', '\\']
  else if 0x20 ≤ c.toNat then [c]
  else if c.toNat = 8 then ['\\', 'b']
  else if c.toNat = 9 then ['\\', 't']
  else if c.toNat = 10 then ['\\', 'n']
  else if c.toNat = 12 then ['\\', 'f']
  else if c.toNat = 13 then ['\\', 'r']
  else ['\\', 'u', '0', '0', hexDigit (c.toNat / 16), hexDigit (c.toNat % 16)]

/-- A text as a JSON string. -/
def string (cs : List Char) : List Char := '"' :: cs.flatMap escapeChar ++ ['"']

end RpcConformance.Json
