import RpcConformance.Text.Quoted
import RpcConformance.Text.Shortest
import RpcConformance.Text.Utf8

/-!
# What stops a reader of JSON

Each way in which a text is not the wanted value is a fault of its own, with the words that
describe it. A fault has a place in the text, which is given as a line and a column.
-/

namespace RpcConformance.Json

/-- A value that was found in the place of another. -/
inductive Found
  | null
  | bool (b : Bool)
  | whole (i : Int)
  | real (negative : Bool) (x : Binary64)
  | text (s : String)
  | list
  | object

namespace Found

/-- A text in the marks that set off a name or a number. -/
def marked (s : String) : String := "\x60" ++ s ++ "\x60"

/-- The value in the description of a fault. -/
def describe : Found → String
  | null => "null"
  | bool true => "boolean " ++ marked "true"
  | bool false => "boolean " ++ marked "false"
  | whole i => "integer " ++ marked (Decimal.signedText i)
  | real negative x =>
    let sign := if negative then ['-'] else []
    "floating point " ++ marked (String.ofList (sign ++ x.numeral))
  | text s => "string " ++ Text.quoted s
  | list => "sequence"
  | object => "map"

end Found

/-- What stopped a reader. -/
inductive Fault
  /-- The text ended in a list. -/
  | endInList
  /-- The text ended in an object. -/
  | endInObject
  /-- The text ended in a string. -/
  | endInString
  /-- The text ended where a value was to start, or in one. -/
  | endInValue
  | noColon
  /-- An element is followed by something else than a comma or the end of the list. -/
  | noListEnd
  /-- A member is followed by something else than a comma or the end of the object. -/
  | noObjectEnd
  /-- A word is none of the three that there are. -/
  | noWord
  | noValue
  | badEscape
  | badNumber
  /-- The number is too large for floating point. -/
  | outOfRange
  /-- A string holds a control character. -/
  | controlCharacter
  | keyIsNoString
  /-- An escaped surrogate has no other half. -/
  | loneSurrogate
  /-- After the first half of a surrogate pair there is no escape. -/
  | brokenPair
  | trailingComma
  | trailingCharacters
  /-- The value is of another type. -/
  | wrongType (found : Found) (wanted : String)
  /-- The number is not in the range of its type. -/
  | wrongNumber (n : Int) (wanted : String)
  /-- The name is none of those that may stand here. -/
  | unknownName (name : String) (names : List String)
  /-- A record that is written as a list ended before a field that it must have. -/
  | tooShort (items : Nat) (wanted : String)
  | setTwice (field : String)
  /-- An object ended without a field that it must have. -/
  | missingField (field : String)

/-- The kinds of faults. -/
inductive FaultKind
  /-- The text ended too early. -/
  | early
  /-- The text is no JSON. -/
  | malformed
  /-- The text is JSON of another shape than the one wanted. -/
  | shape
deriving DecidableEq

namespace Fault

def kind : Fault → FaultKind
  | endInList => .early
  | endInObject => .early
  | endInString => .early
  | endInValue => .early
  | wrongType _ _ => .shape
  | wrongNumber _ _ => .shape
  | unknownName _ _ => .shape
  | tooShort _ _ => .shape
  | setTwice _ => .shape
  | missingField _ => .shape
  | _ => .malformed

def message : Fault → String
  | endInList => "EOF while parsing a list"
  | endInObject => "EOF while parsing an object"
  | endInString => "EOF while parsing a string"
  | endInValue => "EOF while parsing a value"
  | noColon => "expected " ++ Found.marked ":"
  | noListEnd => "expected " ++ Found.marked "," ++ " or " ++ Found.marked "]"
  | noObjectEnd => "expected " ++ Found.marked "," ++ " or " ++ Found.marked "\x7d"
  | noWord => "expected ident"
  | noValue => "expected value"
  | badEscape => "invalid escape"
  | badNumber => "invalid number"
  | outOfRange => "number out of range"
  | controlCharacter =>
    "control character (\\u0000-\\u001F) found while parsing a string"
  | keyIsNoString => "key must be a string"
  | loneSurrogate => "lone leading surrogate in hex escape"
  | brokenPair => "unexpected end of hex escape"
  | trailingComma => "trailing comma"
  | trailingCharacters => "trailing characters"
  | wrongType found wanted => "invalid type: " ++ found.describe ++ ", expected " ++ wanted
  | wrongNumber n wanted =>
    "invalid value: " ++ (Found.whole n).describe ++ ", expected " ++ wanted
  | unknownName name names =>
    "unknown variant " ++ Found.marked name ++ ", expected one of "
      ++ String.intercalate ", " (names.map Found.marked)
  | tooShort items wanted =>
    "invalid length " ++ Decimal.text items ++ ", expected " ++ wanted
  | setTwice field => "duplicate field " ++ Found.marked field
  | missingField field => "missing field " ++ Found.marked field

end Fault

/-- What stopped a reader, and how many bytes of the text it had not gone past. -/
structure ReadError where
  fault : Fault
  unread : Nat

namespace ReadError

/-- The line of a place in a text, counted from one, and the bytes of the line before it. -/
def place (e : ReadError) (text : List Char) : Nat × Nat :=
  let bytes := Utf8.encode (String.ofList text)
  let seen := bytes.take (bytes.length - e.unread)
  (seen.count 10 + 1, (seen.reverse.takeWhile (· ≠ 10)).length)

/-- What is said of a text that could not be read. -/
def message (e : ReadError) (text : List Char) : String :=
  let (line, column) := e.place text
  e.fault.message ++ " at line " ++ Decimal.text line ++ " column " ++ Decimal.text column

end ReadError

/-- Bytes of a text in UTF-8. -/
def byteLength (cs : List Char) : Nat := (cs.map Char.utf8Size).foldr (· + ·) 0

/-- Stops before the given rest. -/
def stop {α : Type} (fault : Fault) (rest : List Char) : Except ReadError α :=
  .error ⟨fault, byteLength rest⟩

/-- Stops past the first byte of the given rest. -/
def stopPast {α : Type} (fault : Fault) (rest : List Char) : Except ReadError α :=
  .error ⟨fault, byteLength rest - 1⟩

end RpcConformance.Json
