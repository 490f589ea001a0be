import RpcConformance.Json.Fault
import RpcConformance.Text.Hexadecimal

/-!
# Strings, words and numbers of JSON

Readers go through a text from left to right and take it to a value and the text after it; the
first problem in reading order decides. A number is read into as many digits as fit into a word
of 64 bits and a power of ten; further digits count only as places.
-/

namespace RpcConformance.Json

/-- A reader takes a text to a value and the rest of the text. -/
abbrev Reader (α : Type) := List Char → Except ReadError (α × List Char)

/-- The white space between tokens. -/
def isSpace (c : Char) : Bool := c == ' ' || c == '\n' || c == '\t' || c == '\r'

def skipSpace (cs : List Char) : List Char := cs.dropWhile isSpace

/-! ## Strings -/

/-- Reads the four digits of an escaped code unit. The next four bytes are looked at together,
whatever they are. -/
def readUnit (cs : List Char) : Except ReadError (Nat × List Char) :=
  if byteLength cs < 4 then stop .endInString []
  else
    match cs.take 4 |>.mapM fun c => Hexadecimal.value? c.toNat with
    | some [w, x, y, z] => .ok (((w * 16 + x) * 16 + y) * 16 + z, cs.drop 4)
    | _ => .error ⟨.badEscape, byteLength cs - 4⟩

/-- Reads what follows a high surrogate: the escape of a low one. -/
def readLowSurrogate (high : Nat) (cs : List Char) : Except ReadError (Char × List Char) :=
  match cs with
  | [] => stop .endInString []
  | '\\' :: [] => stop .endInString []
  | '\\' :: 'u' :: rest => do
    let (low, rest) ← readUnit rest
    if 0xDC00 ≤ low ∧ low ≤ 0xDFFF then
      return (Char.ofNat (0x10000 + (high - 0xD800) * 0x400 + (low - 0xDC00)), rest)
    else stop .loneSurrogate rest
  | '\\' :: rest => stopPast .brokenPair rest
  | rest => stopPast .brokenPair rest

/-- The character of an escape of one letter. -/
def shortEscape? (c : Char) : Option Char :=
  if c = '"' ∨ c = '\\' ∨ c = '/' then some c
  else if c = 'b' then some (Char.ofNat 8)
  else if c = 'f' then some (Char.ofNat 12)
  else if c = 'n' then some '\n'
  else if c = 'r' then some '\r'
  else if c = 't' then some '\t'
  else none

/-- Reads an escape after its backslash. -/
def readEscape (cs : List Char) : Except ReadError (Char × List Char) :=
  match cs with
  | [] => stop .endInString []
  | c :: rest =>
    if c = 'u' then do
      let (u, rest) ← readUnit rest
      if 0xDC00 ≤ u ∧ u ≤ 0xDFFF then stop .loneSurrogate rest
      else if 0xD800 ≤ u ∧ u ≤ 0xDBFF then readLowSurrogate u rest
      else return (Char.ofNat u, rest)
    else match shortEscape? c with
      | some c => .ok (c, rest)
      | none => stopPast .badEscape cs

/-- Reads a string after its opening quote, in at most as many steps as it has characters. -/
def readStringBody : Nat → List Char → Except ReadError (List Char × List Char)
  | 0, _ => stop .endInString []
  | _ + 1, [] => stop .endInString []
  | fuel + 1, c :: rest =>
    if c = '"' then .ok ([], rest)
    else if c = '\\' then do
      let (c, rest) ← readEscape rest
      let (cs, rest) ← readStringBody fuel rest
      return (c :: cs, rest)
    else if c.toNat < 0x20 then stopPast .controlCharacter (c :: rest)
    else do
      let (cs, rest) ← readStringBody fuel rest
      return (c :: cs, rest)

/-- Reads a string after its opening quote. -/
def readStringRest (cs : List Char) : Except ReadError (String × List Char) := do
  let (body, rest) ← readStringBody (cs.length + 1) cs
  return (String.ofList body, rest)

/-! ## Words -/

/-- Reads the given letters. -/
def readWord : List Char → List Char → Except ReadError (List Char)
  | [], cs => .ok cs
  | _ :: _, [] => stop .endInValue []
  | w :: ws, c :: cs => if c = w then readWord ws cs else stopPast .noWord (c :: cs)

/-! ## Numbers -/

/-- A number as it is written: a whole number, or one with a fraction, an exponent or too many
digits. -/
inductive Number
  | whole (i : Int)
  | real (negative : Bool) (x : Binary64)

/-- A number that has been found in the place of another value. -/
def Number.found : Number → Found
  | whole i => .whole i
  | real negative x => .real negative x

/-- A run of digits that has been read. -/
structure Digits where
  value : Nat
  count : Nat
  rest : List Char

/-- Reads digits while the value, to which they are added at the end, stays below a limit. -/
def takeDigits (limit : Nat) (value count : Nat) : List Char → Digits
  | [] => ⟨value, count, []⟩
  | c :: cs =>
    if Decimal.isDigit c ∧ value * 10 + Decimal.digitValue c < limit then
      takeDigits limit (value * 10 + Decimal.digitValue c) (count + 1) cs
    else ⟨value, count, c :: cs⟩

/-- The next character is a digit. -/
def startsWithDigit (cs : List Char) : Bool := cs.head?.any Decimal.isDigit

def skipDigits (cs : List Char) : List Char := cs.dropWhile Decimal.isDigit

/-- The number that has been read up to the given rest. -/
def finishReal (negative : Bool) (digits : Nat) (exponent : Int) (rest : List Char) :
    Except ReadError (Number × List Char) :=
  match Binary64.ofDecimal? digits exponent with
  | some x => .ok (.real negative x, rest)
  | none => stop .outOfRange rest

/-- Reads an exponent after its letter. An exponent of more than 31 bits makes a number too
large or zero. -/
def readExponent (negative : Bool) (digits : Nat) (exponent : Int) (cs : List Char) :
    Except ReadError (Number × List Char) :=
  let (down, cs) := match cs with
    | '+' :: rest => (false, rest)
    | '-' :: rest => (true, rest)
    | _ => (false, cs)
  if cs.isEmpty then stop .endInValue []
  else if !startsWithDigit cs then stopPast .badNumber cs
  else
    let e := takeDigits int32Limit 0 0 cs
    if startsWithDigit e.rest then
      if digits ≠ 0 ∧ !down then stop .outOfRange (e.rest.drop 1)
      else .ok (.real negative ⟨0, 0⟩, skipDigits e.rest)
    else finishReal negative digits (if down then exponent - e.value else exponent + e.value) e.rest

/-- Reads what follows the last digit before an exponent: an exponent or nothing. -/
def readRealEnd (negative : Bool) (digits : Nat) (exponent : Int) (cs : List Char) :
    Except ReadError (Number × List Char) :=
  match cs with
  | 'e' :: rest => readExponent negative digits exponent rest
  | 'E' :: rest => readExponent negative digits exponent rest
  | _ => finishReal negative digits exponent cs

/-- Reads a fraction after its point. -/
def readFraction (negative : Bool) (digits : Nat) (exponent : Int) (cs : List Char) :
    Except ReadError (Number × List Char) :=
  let f := takeDigits wordLimit digits 0 cs
  if startsWithDigit f.rest then
    readRealEnd negative f.value (exponent - f.count) (skipDigits f.rest)
  else if f.count = 0 then
    if f.rest.isEmpty then stop .endInValue [] else stopPast .badNumber f.rest
  else readRealEnd negative f.value (exponent - f.count) f.rest

/-- A whole number of at most 64 bits; a negative one may be too large for its sign, and zero
has no negative. -/
def wholeNumber (negative : Bool) (n : Nat) : Number :=
  if negative then
    if n = 0 ∨ powerOfTwo 63 < n then .real true (Binary64.ofNat n) else .whole (-n)
  else .whole n

/-- Reads what follows the digits of a number: nothing, a fraction or an exponent. -/
def readNumberEnd (negative : Bool) (digits : Nat) (cs : List Char) :
    Except ReadError (Number × List Char) :=
  match cs with
  | '.' :: rest => readFraction negative digits 0 rest
  | 'e' :: rest => readExponent negative digits 0 rest
  | 'E' :: rest => readExponent negative digits 0 rest
  | _ => .ok (wholeNumber negative digits, cs)

/-- Reads the digits that do not fit, and what follows them. -/
def readLongNumber (negative : Bool) (digits : Nat) (cs : List Char) :
    Except ReadError (Number × List Char) :=
  let exponent : Int := (cs.takeWhile Decimal.isDigit).length
  match skipDigits cs with
  | '.' :: rest => readFraction negative digits exponent rest
  | rest => readRealEnd negative digits exponent rest

/-- Reads a number after its sign. -/
def readNumber (negative : Bool) (cs : List Char) : Except ReadError (Number × List Char) :=
  match cs with
  | [] => stop .endInValue []
  | '0' :: rest =>
    if startsWithDigit rest then stopPast .badNumber rest else readNumberEnd negative 0 rest
  | _ =>
    let n := takeDigits wordLimit 0 0 cs
    if n.count = 0 then stopPast .badNumber cs
    else if startsWithDigit n.rest then readLongNumber negative n.value n.rest
    else readNumberEnd negative n.value n.rest

end RpcConformance.Json
