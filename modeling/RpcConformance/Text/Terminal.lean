import RpcConformance.Text.Utf8

/-!
# Terminal controls

A text that may reach a terminal can hold more than characters to show: control characters, and
sequences that begin with an escape character and tell the terminal what to do. Here such a text
is reduced to what it shows. Blanks are shown, also within a sequence, which they end.
-/

namespace RpcConformance.Terminal

/-- What the bytes before have begun. -/
inductive Mode
  | text
  /-- A character, of which so many bytes are missing. -/
  | character (left : Nat)
  /-- A sequence, of which only the escape character has come. -/
  | escape
  /-- A sequence with a byte between the escape character and the final one. -/
  | intermediate
  /-- A sequence with parameters. -/
  | parameters
  /-- A text for the system on which the terminal runs, which a bell may end. -/
  | command
  /-- Any other text that is not shown, which a string terminator ends. -/
  | hidden
deriving DecidableEq

/-- The blanks among the control characters. -/
def isBlank (b : UInt8) : Bool := b == 0x09 || b == 0x0A || b == 0x0C || b == 0x0D

/-- The bytes that follow the first byte of a character. -/
def continuations (b : UInt8) : Nat := if b < 0xE0 then 1 else if b < 0xF0 then 2 else 3

/-- The mode after the byte that follows an escape character. -/
def afterEscape (b : UInt8) : Mode :=
  if b < 0x20 || 0x7F ≤ b then .escape
  else if b < 0x30 then .intermediate
  else if b = 0x5B then .parameters
  else if b = 0x5D then .command
  else if b = 0x50 ∨ b = 0x58 ∨ b = 0x5E ∨ b = 0x5F then .hidden
  else .text

/-- The mode after a byte that neither cancels a sequence nor begins one. -/
def next (m : Mode) (b : UInt8) : Mode :=
  match m with
  | .text => if 0xC2 ≤ b && b ≤ 0xF4 then .character (continuations b) else .text
  | .character left => if left ≤ 1 then .text else .character (left - 1)
  | .escape => if isBlank b then .text else afterEscape b
  | .intermediate => if isBlank b || (0x30 ≤ b && b < 0x7F) then .text else .intermediate
  | .parameters => if isBlank b || (0x40 ≤ b && b < 0x7F) then .text else .parameters
  | .command => if b = 0x07 then .text else .command
  | .hidden => if b = 0x9C then .text else .hidden

/-- A byte is shown. -/
def shows (m : Mode) (b : UInt8) : Bool :=
  match m with
  | .text => isBlank b || (0x20 ≤ b && b < 0x7F) || (0xC2 ≤ b && b ≤ 0xF4)
  | .character _ => true
  | .command => false
  | .hidden => false
  | _ => isBlank b

/-- The bytes that are shown. A cancelling byte ends every sequence. -/
def shown : Mode → List UInt8 → List UInt8
  | _, [] => []
  | m, b :: rest =>
    if b = 0x18 ∨ b = 0x1A then shown .text rest
    else if b = 0x1B then shown .escape rest
    else if shows m b then b :: shown (next m b) rest
    else shown (next m b) rest

/-- What a text shows. -/
def shownText (s : String) : String := Utf8.lossy (shown .text (Utf8.encode s))

end RpcConformance.Terminal
