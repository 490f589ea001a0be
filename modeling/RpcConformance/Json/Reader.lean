import RpcConformance.Json.Skip

/-!
# Reading JSON of a wanted shape

A value of the wrong shape is noticed as soon as it starts, unless it is a string, a number or a
word, which is read first. A record is written as an object, whose unknown members are skipped,
or as a list of its fields in order. What is wrong with a record as a whole is said of the place
after its end, where the end follows.
-/

namespace RpcConformance.Json

/-! ## Simple values -/

/-- Reads a value that is not of the wanted type so far as to say what it is. -/
def mismatch {α : Type} (wanted : String) (cs : List Char) : Except ReadError α :=
  let is (found : Found) (rest : List Char) : Except ReadError α :=
    stop (.wrongType found wanted) rest
  match cs with
  | [] => stop .endInValue []
  | '[' :: _ => is .list cs
  | '\x7b' :: _ => is .object cs
  | '"' :: rest => do
    let (s, rest) ← readStringRest rest
    is (.text s) rest
  | 'n' :: rest => do
    let rest ← readWord ['u', 'l', 'l'] rest
    is .null rest
  | 't' :: rest => do
    let rest ← readWord ['r', 'u', 'e'] rest
    is (.bool true) rest
  | 'f' :: rest => do
    let rest ← readWord ['a', 'l', 's', 'e'] rest
    is (.bool false) rest
  | '-' :: rest => do
    let (n, rest) ← readNumber true rest
    is n.found rest
  | c :: _ =>
    if Decimal.isDigit c then do
      let (n, rest) ← readNumber false cs
      is n.found rest
    else stopPast .noValue cs

/-- Reads a string. -/
def readString : Reader String := fun cs =>
  match skipSpace cs with
  | '"' :: rest => readStringRest rest
  | rest => mismatch "a string" rest

/-- The name of the whole numbers of 32 bits. -/
def int32Name : String := "i32"

/-- A number as a whole one of 32 bits, written without a fraction and an exponent. -/
def int32Of (n : Number) (rest : List Char) : Except ReadError (Int × List Char) :=
  match n with
  | .whole i =>
    if -(int32Limit : Int) ≤ i ∧ i < int32Limit then .ok (i, rest)
    else stop (.wrongNumber i int32Name) rest
  | n => stop (.wrongType n.found int32Name) rest

/-- Reads a whole number of 32 bits. -/
def readInt32 : Reader Int := fun cs =>
  match skipSpace cs with
  | '-' :: rest => do
    let (n, rest) ← readNumber true rest
    int32Of n rest
  | rest =>
    if startsWithDigit rest then do
      let (n, rest) ← readNumber false rest
      int32Of n rest
    else mismatch int32Name rest

/-- Reads `null`. -/
def readNull : Reader Unit := fun cs =>
  match skipSpace cs with
  | 'n' :: rest => do
    let rest ← readWord ['u', 'l', 'l'] rest
    return ((), rest)
  | rest => mismatch "unit" rest

/-- Reads the colon after a key. -/
def readColon (cs : List Char) : Except ReadError (List Char) :=
  match skipSpace cs with
  | [] => stop .endInObject []
  | ':' :: rest => .ok rest
  | rest => stopPast .noColon rest

/-! ## Lists -/

/-- Looks for a further element of a list, of which the bracket or the elements so far have
been read, and moves up to it. -/
def nextItem (first : Bool) (cs : List Char) : Except ReadError (Bool × List Char) :=
  match skipSpace cs with
  | [] => stop .endInList []
  | c :: rest =>
    if c = ']' then .ok (false, c :: rest)
    else if first then .ok (true, c :: rest)
    else if c = ',' then
      match skipSpace rest with
      | [] => stop .endInValue []
      | ']' :: rest => stopPast .trailingComma (']' :: rest)
      | rest => .ok (true, rest)
    else stopPast .noListEnd (c :: rest)

/-- Reads the end of a list whose wanted elements have all been read. -/
def readListEnd (cs : List Char) : Except ReadError (List Char) :=
  match skipSpace cs with
  | [] => stop .endInList []
  | ']' :: rest => .ok rest
  | ',' :: rest =>
    match skipSpace rest with
    | ']' :: rest => stopPast .trailingComma (']' :: rest)
    | rest => stopPast .trailingCharacters rest
  | rest => stopPast .trailingCharacters rest

/-- Reads the elements of a list and its end. -/
def readItems {α : Type} (item : Reader α) : Nat → Bool → Reader (List α)
  | 0, _, cs => stop .endInList cs
  | fuel + 1, first, cs => do
    let (more, rest) ← nextItem first cs
    if more then
      let (a, rest) ← item rest
      let (items, rest) ← readItems item fuel false rest
      return (a :: items, rest)
    else return ([], rest.drop 1)

/-- Reads a list. -/
def readList {α : Type} (item : Reader α) : Reader (List α) := fun cs =>
  match skipSpace cs with
  | '[' :: rest => readItems item (rest.length + 1) true rest
  | rest => mismatch "a sequence" rest

/-! ## Records -/

/-- Looks for a further key of an object, of which the brace or the members so far have been
read; reads the key, or the end of the object. -/
def nextKey (first : Bool) (cs : List Char) : Except ReadError (Option String × List Char) :=
  let key (cs : List Char) : Except ReadError (Option String × List Char) :=
    match cs with
    | '"' :: rest => (readStringRest rest).map fun r => (some r.1, r.2)
    | rest => stopPast .keyIsNoString rest
  match skipSpace cs with
  | [] => stop .endInObject []
  | c :: rest =>
    if c = '\x7d' then .ok (none, rest)
    else if first then key (c :: rest)
    else if c = ',' then
      match skipSpace rest with
      | [] => stop .endInValue []
      | '\x7d' :: rest => stopPast .trailingComma ('\x7d' :: rest)
      | rest => key rest
    else stopPast .noObjectEnd (c :: rest)

/-- Reads the members of an object and its end. `member` reads one of them after its key. -/
def readMembers {σ : Type} (member : σ → String → Reader σ) : Nat → Bool → σ → Reader σ
  | 0, _, _, cs => stop .endInObject cs
  | fuel + 1, first, s, cs => do
    let (key, rest) ← nextKey first cs
    match key with
    | none => return (s, rest)
    | some key =>
      let (s, rest) ← member s key rest
      readMembers member fuel false s rest

/-- The rest after the end of an object, if the end follows. -/
def pastObject (cs : List Char) : List Char :=
  match skipSpace cs with
  | '\x7d' :: rest => rest
  | rest => rest

/-- Reads the colon and the value of a field that is not set yet. -/
def readField {α σ : Type} (name : String) (current : Option α) (value : Reader α)
    (set : α → σ) : Reader σ :=
  fun cs =>
    if current.isSome then stop (.setTwice name) (pastObject cs)
    else do
      let rest ← readColon cs
      let (a, rest) ← value rest
      return (set a, rest)

/-- Skips the colon and the value of an unknown field. -/
def skipFieldOf {σ : Type} (s : σ) : Reader σ := fun cs => do
  let rest ← readColon cs
  let rest ← skipValue rest
  return (s, rest)

/-- The value of a field that an object must have; the object has been read. -/
def require {α : Type} (name : String) (value : Option α) (rest : List Char) :
    Except ReadError α :=
  match value with
  | some a => .ok a
  | none => stop (.missingField name) rest

/-- Reads a record, written as an object or as a list of its fields in order. -/
def readRecord {α : Type} (wanted : String) (fields members : Reader α) : Reader α := fun cs =>
  match skipSpace cs with
  | '[' :: rest => do
    let (a, rest) ← fields rest
    let rest ← readListEnd rest
    return (a, rest)
  | '\x7b' :: rest => members rest
  | rest => mismatch wanted rest

/-- Reads an element that must be there; `index` elements stand before it. -/
def requireItem {α : Type} (wanted : String) (index : Nat) (item : Reader α) : Reader α :=
  fun cs => do
    let (more, rest) ← nextItem (index == 0) cs
    if more then item rest else stop (.tooShort index wanted) (rest.drop 1)

/-- Reads an element that may be left out at the end of a list. -/
def optionalItem {α : Type} (default : α) (item : Reader α) : Reader α :=
  fun cs => do
    let (more, rest) ← nextItem false cs
    if more then item rest else return (default, rest)

end RpcConformance.Json
