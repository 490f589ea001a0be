import RpcConformance.Overflow
import RpcConformance.Text.Decimal
import RpcConformance.Text.Utf8
import RpcConformance.Time

/-!
# The timeout header

A timeout travels as one to eight decimal digits and a unit letter. Writing picks the finest
unit whose count fits the digits and drops what is below that unit, so a written timeout is
never longer than the one it stands for. Reading cuts the last byte off a text that a peer may have
chosen at will, and counts in words of 64 bits; what would stop the program there is a result of
its own.
-/

namespace RpcConformance.Timeout

/-- The header that carries a timeout. -/
def header : String := "grpc-timeout"

/-- The units of a timeout, finest first. -/
inductive TimeUnit
  | nanosecond
  | microsecond
  | millisecond
  | second
  | minute
  | hour
deriving DecidableEq

namespace TimeUnit

def letter : TimeUnit → Char
  | nanosecond => 'n'
  | microsecond => 'u'
  | millisecond => 'm'
  | second => 'S'
  | minute => 'M'
  | hour => 'H'

/-- Nanoseconds in one unit. -/
def nanos : TimeUnit → Nat
  | nanosecond => 1
  | microsecond => 1000
  | millisecond => 1000000
  | second => 1000000000
  | minute => 60000000000
  | hour => 3600000000000

/-- Every unit, finest first. -/
def all : List TimeUnit := [nanosecond, microsecond, millisecond, second, minute, hour]

def ofLetter? (c : Char) : Option TimeUnit := all.find? (·.letter == c)

/-- So many of a unit. Hours and minutes are counted in seconds, in words of 64 bits. -/
def times (n : Nat) : TimeUnit → Except Overflow Duration
  | nanosecond => .ok (.ofNanos n)
  | microsecond => .ok (.ofMicros n)
  | millisecond => .ok (.ofMillis n)
  | second => .ok (.ofSecs n)
  | minute => do
    let seconds ← mulWord n 60
    return .ofSecs seconds
  | hour => do
    let minutes ← mulWord n 60
    let seconds ← mulWord minutes 60
    return .ofSecs seconds

end TimeUnit

/-- The largest count that eight digits can hold. -/
def maxCount : Nat := 99999999

/-- The finest unit in which the count of `d` fits, if there is one. -/
def unitFor? (d : Duration) : Option TimeUnit :=
  TimeUnit.all.find? fun u => d.nanos / u.nanos ≤ maxCount

/-- The count and unit that are written for `d`. -/
def counted (d : Duration) : Nat × TimeUnit :=
  match unitFor? d with
  | some u => (d.nanos / u.nanos, u)
  | none => (maxCount, .hour)

/-- Writes a timeout with the finest unit that fits; the longest ones become the largest
count of hours. -/
def encode (d : Duration) : String :=
  String.ofList (Decimal.digits (counted d).1 ++ [(counted d).2.letter])

/-! ## Reading -/

/-- What would stop the program while it reads a timeout. -/
inductive ReadStop
  | overflow (o : Overflow)
  /-- The text is cut past its end or inside a character. -/
  | cut

/-- What stands before the last byte of a text, and that byte. -/
def splitUnit (s : String) : Except ReadStop (List Char × List Char) := do
  let front ← (subWord (Utf8.encode s).length 1).mapError .overflow
  (Utf8.cut? s.toList front).elim (.error .cut) .ok

/-- The count of at most eight ASCII digits. -/
def count? (digits : List Char) : Option Nat :=
  if 8 < (Utf8.encode (String.ofList digits)).length || !digits.all Decimal.isDigit then none
  else Decimal.unsigned? 64 (String.ofList digits)

/-- The unit of a text of one letter. -/
def unit? : List Char → Option TimeUnit
  | [c] => TimeUnit.ofLetter? c
  | _ => none

/-- The timeout of a count and a unit, if they are a count and a unit. -/
def inUnits : Option Nat → Option TimeUnit → Except ReadStop (Option Duration)
  | some n, some u => ((u.times n).map some).mapError .overflow
  | _, _ => .ok none

/-- Reads one to eight ASCII digits followed by one unit letter, and nothing else. -/
def read (s : String) : Except ReadStop (Option Duration) :=
  if s.toList.any (128 ≤ ·.toNat) || (Utf8.encode s).length < 2 then return none
  else do
    let (digits, unit) ← splitUnit s
    inUnits (count? digits) (unit? unit)

/-- The timeout of a text. Nothing stops the reading of any text, so each one is a timeout or
none. -/
def parse (s : String) : Option Duration :=
  match read s with
  | .ok timeout => timeout
  | .error _ => none

end RpcConformance.Timeout
