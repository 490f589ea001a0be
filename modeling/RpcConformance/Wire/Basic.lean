import RpcConformance.Text.Utf8
import RpcConformance.Word

/-!
# The binary encoding of messages

A message is a sequence of fields, each a key and a value; the key holds the field's number
and the kind of its value. Readers here take a list of bytes to a value and the bytes after
it. A reader skips fields that it does not know, the last value of a single field counts, and
a failure names the fields around it from the inside out.
-/

namespace RpcConformance.Wire

/-- How the value of a field is laid out. -/
inductive Kind
  | varint
  | fixed64
  | lengthDelimited
  | startGroup
  | endGroup
  | fixed32
deriving DecidableEq

namespace Kind

/-- The number of a kind in a key. -/
def number : Kind → Nat
  | varint => 0
  | fixed64 => 1
  | lengthDelimited => 2
  | startGroup => 3
  | endGroup => 4
  | fixed32 => 5

def ofNumber? : Nat → Option Kind
  | 0 => some varint
  | 1 => some fixed64
  | 2 => some lengthDelimited
  | 3 => some startGroup
  | 4 => some endGroup
  | 5 => some fixed32
  | _ => none

def name : Kind → String
  | varint => "Varint"
  | fixed64 => "SixtyFourBit"
  | lengthDelimited => "LengthDelimited"
  | startGroup => "StartGroup"
  | endGroup => "EndGroup"
  | fixed32 => "ThirtyTwoBit"

end Kind

/-- What is wrong with the bytes. -/
inductive Problem
  /-- A number that is cut off or has more than 64 bits. -/
  | varint
  /-- A key of more than 32 bits. -/
  | key (value : Nat)
  /-- A kind that does not exist. -/
  | kind (value : Nat)
  /-- The field number zero. -/
  | fieldZero
  /-- A known field of another kind. -/
  | mismatch (found expected : Kind)
  /-- A length past the end of the bytes. -/
  | underflow
  /-- A text that is not well-formed. -/
  | notUtf8
  /-- The end of a group that is not open. -/
  | endGroup
  /-- More nesting than is read. -/
  | depth
  /-- A nested message whose last field passes its end. -/
  | overrun
deriving DecidableEq

namespace Problem

def message : Problem → String
  | varint => "invalid varint"
  | key n => "invalid key value: " ++ toString n
  | kind n => "invalid wire type value: " ++ toString n
  | fieldZero => "invalid tag value: 0"
  | mismatch found expected =>
    "invalid wire type: " ++ found.name ++ " (expected " ++ expected.name ++ ")"
  | underflow => "buffer underflow"
  | notUtf8 => "invalid string value: data is not UTF-8 encoded"
  | endGroup => "unexpected end group tag"
  | depth => "recursion limit reached"
  | overrun => "delimited length exceeded"

end Problem

/-- Why bytes are no message: what is wrong, and in which fields, innermost first. -/
structure DecodeError where
  path : List String
  problem : Problem
deriving DecidableEq

namespace DecodeError

def message (e : DecodeError) : String :=
  "failed to decode Protobuf message: "
    ++ String.join (e.path.map (· ++ ": ")) ++ e.problem.message

/-- The same error seen from the field around it. -/
def within (field : String) (e : DecodeError) : DecodeError := ⟨e.path ++ [field], e.problem⟩

end DecodeError

/-! ## Numbers and keys -/

/-- Seven bits a byte, least significant first; all bytes but the last have the high bit. -/
def writeVarint (n : Nat) : List UInt8 :=
  if n < 128 then [UInt8.ofNat n] else UInt8.ofNat (n % 128 + 128) :: writeVarint (n / 128)
termination_by n
decreasing_by omega

/-- Reads a number of at most `count` bytes; the last byte that may be read is at most one. -/
def readVarintWithin : Nat → List UInt8 → Option (Nat × List UInt8)
  | 0, _ => none
  | _ + 1, [] => none
  | count + 1, b :: rest =>
    if b < 128 then
      if count = 0 ∧ 1 < b then none else some (b.toNat, rest)
    else (readVarintWithin count rest).map fun r => (b.toNat % 128 + 128 * r.1, r.2)

/-- Reads a number of at most ten bytes and 64 bits. -/
def readVarint (bytes : List UInt8) : Except Problem (Nat × List UInt8) :=
  match readVarintWithin 10 bytes with
  | some r => .ok r
  | none => .error .varint

/-- A field's key. -/
def writeKey (field : Nat) (kind : Kind) : List UInt8 := writeVarint (field * 8 + kind.number)

/-- Reads a key. -/
def readKey (bytes : List UInt8) : Except Problem ((Nat × Kind) × List UInt8) :=
  match readVarint bytes with
  | .error p => .error p
  | .ok (key, rest) =>
    if powerOfTwo 32 ≤ key then .error (.key key)
    else match Kind.ofNumber? (key % 8) with
      | none => .error (.kind (key % 8))
      | some kind => if key / 8 = 0 then .error .fieldZero else .ok ((key / 8, kind), rest)

/-- Drops `n` bytes, if there are so many. -/
def skipBytes (n : Nat) (bytes : List UInt8) : Except Problem (List UInt8) :=
  if n ≤ bytes.length then .ok (bytes.drop n) else .error .underflow

/-- Takes as many bytes as the length before them says. -/
def readBytes (bytes : List UInt8) : Except Problem (List UInt8 × List UInt8) :=
  match readVarint bytes with
  | .error p => .error p
  | .ok (n, rest) =>
    if n ≤ rest.length then .ok (rest.take n, rest.drop n) else .error .underflow

/-- Bytes with their length before them. -/
def writeBytes (bytes : List UInt8) : List UInt8 := writeVarint bytes.length ++ bytes

/-! ## Unknown fields -/

mutual

/-- Skips the value of a field whose key has been read. -/
def skipValue : Nat → Nat → Kind → Nat → List UInt8 → Except Problem (List UInt8)
  | 0, _, _, _, _ => .error .depth
  | fuel + 1, field, kind, depth, bytes =>
    if depth = 0 then .error .depth
    else match kind with
      | .varint => (readVarint bytes).map (·.2)
      | .fixed64 => skipBytes 8 bytes
      | .fixed32 => skipBytes 4 bytes
      | .lengthDelimited => (readBytes bytes).map (·.2)
      | .startGroup => skipGroup fuel field depth bytes
      | .endGroup => .error .endGroup

/-- Skips fields up to the end of the group of the given field. -/
def skipGroup : Nat → Nat → Nat → List UInt8 → Except Problem (List UInt8)
  | 0, _, _, _ => .error .depth
  | fuel + 1, group, depth, bytes =>
    match readKey bytes with
    | .error p => .error p
    | .ok ((field, kind), rest) =>
      if kind = .endGroup then
        if field = group then .ok rest else .error .endGroup
      else match skipValue fuel field kind (depth - 1) rest with
        | .error p => .error p
        | .ok rest => skipGroup fuel group depth rest

end

/-- Skips the value of an unknown field; groups nest up to `depth` levels. -/
def skipField (field : Nat) (kind : Kind) (depth : Nat) (bytes : List UInt8) :
    Except Problem (List UInt8) :=
  skipValue (2 * bytes.length + 2) field kind depth bytes

/-! ## Messages -/

/-- How a message reads the value of one field, whose number and kind are known. -/
abbrev FieldReader (α : Type) :=
  Nat → Kind → Nat → α → List UInt8 → Except DecodeError (α × List UInt8)

/-- An error outside every field. -/
def bare {α : Type} : Except Problem α → Except DecodeError α
  | .ok a => .ok a
  | .error p => .error ⟨[], p⟩

/-- An error within a field. -/
def inField {α : Type} (field : String) : Except DecodeError α → Except DecodeError α
  | .ok a => .ok a
  | .error e => .error (e.within field)

/-- A field value of the wanted kind. -/
def expectKind (found expected : Kind) : Except DecodeError Unit :=
  if found = expected then .ok () else .error ⟨[], .mismatch found expected⟩

/-- Reads fields into a record until no more than `stop` bytes are left. Every field takes at
least the byte of its key, so the number of bytes bounds the number of fields. -/
def readFields {α : Type} (reader : FieldReader α) (depth stop : Nat) :
    Nat → α → List UInt8 → Except DecodeError (α × List UInt8)
  | 0, a, bytes => .ok (a, bytes)
  | fuel + 1, a, bytes =>
    if bytes.length ≤ stop then .ok (a, bytes)
    else match readKey bytes with
      | .error p => .error ⟨[], p⟩
      | .ok ((field, kind), rest) =>
        match reader field kind depth a rest with
        | .error e => .error e
        | .ok (a, rest) => readFields reader depth stop fuel a rest

/-- How many levels of groups and messages are read. -/
def maxDepth : Nat := 100

/-- Reads a whole message, starting from the record with all fields at their defaults. -/
def decode {α : Type} (reader : FieldReader α) (default : α) (bytes : List UInt8) :
    Except DecodeError α :=
  (readFields reader maxDepth 0 bytes.length default bytes).map (·.1)

/-- Reads a nested message, whose length comes first and whose fields must end exactly there. -/
def readNested {α : Type} (reader : FieldReader α) (default : α) (depth : Nat)
    (bytes : List UInt8) : Except DecodeError (α × List UInt8) :=
  if depth = 0 then .error ⟨[], .depth⟩
  else match readVarint bytes with
    | .error p => .error ⟨[], p⟩
    | .ok (n, rest) =>
      if rest.length < n then .error ⟨[], .underflow⟩
      else
        let stop := rest.length - n
        match readFields reader (depth - 1) stop rest.length default rest with
        | .error e => .error e
        | .ok (a, left) => if left.length = stop then .ok (a, left) else .error ⟨[], .overrun⟩

/-- Reads a text. -/
def readText (kind : Kind) (bytes : List UInt8) : Except DecodeError (String × List UInt8) :=
  match expectKind kind .lengthDelimited with
  | .error e => .error e
  | .ok () =>
    match readBytes bytes with
    | .error p => .error ⟨[], p⟩
    | .ok (text, rest) =>
      match Utf8.decode? text with
      | some s => .ok (s, rest)
      | none => .error ⟨[], .notUtf8⟩

/-- Reads bytes. -/
def readBlob (kind : Kind) (bytes : List UInt8) :
    Except DecodeError (List UInt8 × List UInt8) :=
  match expectKind kind .lengthDelimited with
  | .error e => .error e
  | .ok () => bare (readBytes bytes)

/-- Reads a signed number of 32 bits, of which the low ones of a longer number count. -/
def readInt32 (kind : Kind) (bytes : List UInt8) : Except DecodeError (Int × List UInt8) :=
  match expectKind kind .varint with
  | .error e => .error e
  | .ok () =>
    match readVarint bytes with
    | .error p => .error ⟨[], p⟩
    | .ok (n, rest) => .ok (Int.bmod n (powerOfTwo 32), rest)

/-- A text field, left out when it is empty. -/
def writeTextField (field : Nat) (s : String) : List UInt8 :=
  if s = "" then []
  else writeKey field .lengthDelimited ++ writeBytes (Utf8.encode s)

/-- A field of bytes, left out when it is empty. -/
def writeBlobField (field : Nat) (bytes : List UInt8) : List UInt8 :=
  if bytes = [] then []
  else writeKey field .lengthDelimited ++ writeBytes bytes

/-- A number field, left out when it is zero. -/
def writeInt32Field (field : Nat) (i : Int) : List UInt8 :=
  if i = 0 then [] else writeKey field .varint ++ writeVarint (wordOfInt i)

end RpcConformance.Wire
