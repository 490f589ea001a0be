import RpcConformance.Text.Hexadecimal
import RpcConformance.Text.Utf8

/-!
# Percent-encoded status messages

A status message travels in a header, where bytes outside visible ASCII are written as `%`
and two hexadecimal digits. The sign `%` itself is not escaped, so a message that spells an
escape of its own arrives changed.
-/

namespace RpcConformance.Percent

/-- Bytes that are escaped: controls, everything outside ASCII, and a few delimiters. -/
def escaped (b : UInt8) : Bool :=
  b < 0x20 || 0x7F ≤ b || [0x20, 0x22, 0x23, 0x3C, 0x3E, 0x60, 0x3F, 0x7B, 0x7D].contains b

/-- The upper-case hexadecimal digit of a value below 16, as a byte. -/
def hexDigit (n : Nat) : UInt8 := UInt8.ofNat (Hexadecimal.upperDigit n)

/-- Writes bytes for a header. -/
def encode : List UInt8 → List UInt8
  | [] => []
  | b :: rest =>
    if escaped b then
      0x25 :: hexDigit (b.toNat / 16) :: hexDigit (b.toNat % 16) :: encode rest
    else b :: encode rest

/-- The byte that an escape starts, if two hexadecimal digits follow its `%`. -/
def unescape? (a h l : UInt8) : Option UInt8 :=
  match a == 0x25, Hexadecimal.value? h.toNat, Hexadecimal.value? l.toNat with
  | true, some x, some y => some (UInt8.ofNat (x * 16 + y))
  | _, _, _ => none

/-- Reads a header; a `%` without two hexadecimal digits after it stands for itself. -/
def decode : List UInt8 → List UInt8
  | a :: h :: l :: rest =>
    match unescape? a h l with
    | some b => b :: decode rest
    | none => a :: decode (h :: l :: rest)
  | rest => rest

/-- Reads a header as a message: the text, or the place at which the decoded bytes are no
text. -/
def read (header : List UInt8) : Except Utf8.Flaw String :=
  let bytes := decode header
  match Utf8.decode? bytes with
  | some text => .ok text
  | none => .error ((Utf8.flaw? bytes).getD ⟨0, none⟩)

/-- Writes a message for a header. -/
def write (message : String) : List UInt8 := encode (Utf8.encode message)

end RpcConformance.Percent
