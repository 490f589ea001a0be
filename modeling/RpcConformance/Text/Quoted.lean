import RpcConformance.Text.Hexadecimal
import RpcConformance.Text.Unprintable

/-!
# Quoted texts

How a report shows a text: between double quotes, with the quote and the backslash escaped,
with short escapes for four controls, and with `\u` and the hexadecimal code point in braces
for every other character that is not shown as it is. Lists stand in brackets.
-/

namespace RpcConformance.Text

/-- The characters that stand for one character inside quotes. -/
def escapeChar (c : Char) : List Char :=
  if c = '"' then ['\\', '"']
  else if c = '\\' then ['\\', '\\']
  else if c = '\t' then ['\\', 't']
  else if c = '\r' then ['\\', 'r']
  else if c = '\n' then ['\\', 'n']
  else if c.toNat = 0 then ['\\', '0']
  else if c.toNat < 0x7F && 0x20 ≤ c.toNat then [c]
  else if isUnprintable c then ['\\', 'u', '\x7b'] ++ Hexadecimal.digits c.toNat ++ ['\x7d']
  else [c]

/-- A text between double quotes. -/
def quoted (s : String) : String :=
  String.ofList ('"' :: s.toList.flatMap escapeChar ++ ['"'])

/-- A list in brackets. -/
def bracketed (items : List String) : String :=
  "[" ++ String.intercalate ", " items ++ "]"

end RpcConformance.Text
