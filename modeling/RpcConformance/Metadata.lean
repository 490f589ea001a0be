import RpcConformance.Text.Base64
import RpcConformance.Text.Utf8

/-!
# Metadata

Headers and trailers are a multimap: a key may occur many times, and the values of one key
keep their order. Keys are compared in lower case, so they are kept in lower case. A binary
value travels as unpadded base64 text.
-/

namespace RpcConformance

/-- The bytes of one header value. -/
structure HeaderValue where
  bytes : List UInt8
deriving DecidableEq

namespace HeaderValue

def ofText (s : String) : HeaderValue := ⟨Utf8.encode s⟩

/-- Bytes that a text value may hold: visible ASCII, the space and the tab. -/
def isTextByte (b : UInt8) : Bool := b == 9 || (0x20 ≤ b && b ≤ 0x7E)

/-- The value as a text, if it has only bytes that a text value may hold. -/
def text? (v : HeaderValue) : Option String :=
  if v.bytes.all isTextByte then some (String.ofList (v.bytes.map fun b => Char.ofNat b.toNat))
  else none

/-- The value as a text in which malformed sequences are replaced. -/
def lossy (v : HeaderValue) : String := Utf8.lossy v.bytes

/-- The spelling of a binary value. -/
def ofBinary (bytes : List UInt8) : HeaderValue :=
  ⟨(Base64.encode bytes).map fun c => UInt8.ofNat c.toNat⟩

/-- The binary value that is spelled, if one is. -/
def binary? (v : HeaderValue) : Option (List UInt8) :=
  Base64.decode? (v.bytes.map fun b => Char.ofNat b.toNat)

end HeaderValue

/-- What refuses a text as an ASCII value. -/
inductive AsciiValueError
  /-- The text has characters outside ASCII. -/
  | nonAscii
  /-- The text has control characters. -/
  | invalid
deriving DecidableEq

namespace AsciiValueError

/-- The cause of a refusal, where it has one of its own. -/
def source? : AsciiValueError → Option String
  | nonAscii => none
  | invalid => some "failed to parse metadata value"

def message (e : AsciiValueError) : String :=
  match e.source? with
  | some cause => "invalid metadata value: " ++ cause
  | none => "metadata value is not ASCII"

end AsciiValueError

/-- The value of a text that may travel as ASCII. -/
def HeaderValue.ofAscii (s : String) : Except AsciiValueError HeaderValue :=
  if s.toList.any (128 ≤ ·.toNat) then .error .nonAscii
  else if (ofText s).bytes.all isTextByte then .ok (ofText s)
  else .error .invalid

/-- Keys with their values, in the order in which they were added. -/
structure Metadata where
  entries : List (String × HeaderValue)
deriving DecidableEq

namespace Metadata

def empty : Metadata := ⟨[]⟩

def isEmpty (m : Metadata) : Bool := m.entries.isEmpty

/-- Adds a value after those that the key has. -/
def append (m : Metadata) (key : String) (value : HeaderValue) : Metadata :=
  ⟨m.entries ++ [(key, value)]⟩

/-- Adds values after those that the key has. -/
def appendAll (m : Metadata) (key : String) (values : List HeaderValue) : Metadata :=
  ⟨m.entries ++ values.map (key, ·)⟩

/-- Gives the key one value instead of those it has. -/
def insert (m : Metadata) (key : String) (value : HeaderValue) : Metadata :=
  ⟨m.entries.filter (·.1 ≠ key) ++ [(key, value)]⟩

/-- The values of a key, in order. -/
def getAll (m : Metadata) (key : String) : List HeaderValue :=
  m.entries.filterMap fun e => if e.1 = key then some e.2 else none

/-- The first value of a key. -/
def get? (m : Metadata) (key : String) : Option HeaderValue := (m.getAll key).head?

/-- Takes all values of a key away. -/
def remove (m : Metadata) (key : String) : Metadata := ⟨m.entries.filter (·.1 ≠ key)⟩

/-- Adds all entries of another map after those of this one. -/
def merge (m other : Metadata) : Metadata := ⟨m.entries ++ other.entries⟩

/-- The map of entries whose keys may be written in any case. -/
def ofPairs (pairs : List (String × HeaderValue)) : Metadata :=
  ⟨pairs.map fun p => (p.1.map Char.toLower, p.2)⟩

/-- The keys, each once, in the order of their first entries. -/
def keys (m : Metadata) : List String := (m.entries.map (·.1)).eraseDups

@[simp] theorem getAll_empty (key : String) : empty.getAll key = [] := rfl

@[simp] theorem getAll_append_self (m : Metadata) (key : String) (value : HeaderValue) :
    (m.append key value).getAll key = m.getAll key ++ [value] := by
  simp [append, getAll]

theorem getAll_append_of_ne (m : Metadata) {key key' : String} (value : HeaderValue)
    (h : key ≠ key') : (m.append key value).getAll key' = m.getAll key' := by
  simp [append, getAll, h]

@[simp] theorem getAll_appendAll_self (m : Metadata) (key : String) (values : List HeaderValue) :
    (m.appendAll key values).getAll key = m.getAll key ++ values := by
  simp only [appendAll, getAll, List.filterMap_append, List.filterMap_map, Function.comp_def]
  simp

theorem getAll_remove_of_ne (m : Metadata) {key key' : String} (h : key ≠ key') :
    (m.remove key).getAll key' = m.getAll key' := by
  simp only [remove, getAll, List.filterMap_filter]
  congr 1
  funext e
  by_cases he : e.1 = key'
  · simp [he, Ne.symm h]
  · simp [he]

@[simp] theorem getAll_remove_self (m : Metadata) (key : String) :
    (m.remove key).getAll key = [] := by
  simp only [remove, getAll, List.filterMap_filter]
  apply List.filterMap_eq_nil_iff.mpr
  intro e _
  by_cases he : e.1 = key <;> simp [he]

@[simp] theorem getAll_insert_self (m : Metadata) (key : String) (value : HeaderValue) :
    (m.insert key value).getAll key = [value] :=
  (getAll_append_self (m.remove key) key value).trans (by rw [getAll_remove_self, List.nil_append])

theorem getAll_insert_of_ne (m : Metadata) {key key' : String} (value : HeaderValue)
    (h : key ≠ key') : (m.insert key value).getAll key' = m.getAll key' :=
  (getAll_append_of_ne (m.remove key) value h).trans (getAll_remove_of_ne m h)

theorem getAll_appendAll_of_ne (m : Metadata) {key key' : String} (values : List HeaderValue)
    (h : key ≠ key') : (m.appendAll key values).getAll key' = m.getAll key' := by
  simp only [appendAll, getAll, List.filterMap_append, List.filterMap_map, Function.comp_def]
  simp [h]

end Metadata

end RpcConformance
