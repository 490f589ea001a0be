import RpcConformance.Text.Decimal
import RpcConformance.Text.Hexadecimal

/-!
# Numeric addresses

An address is four numbers with points between them, or, in brackets, eight groups of
hexadecimal digits with colons between them. Groups of zeros may be left out at one place,
where two colons stand, and the last two groups may be written as four numbers. The text of an
address leaves out the first of the longest runs of zeros.
-/

namespace RpcConformance

/-- An address of a machine. -/
inductive IpAddress
  | v4 (value : BitVec 32)
  | v6 (value : BitVec 128)
deriving DecidableEq

namespace IpAddress

/-! ## Reading -/

/-- The value of a hexadecimal digit. -/
def hexValue? (c : Char) : Option Nat := Hexadecimal.value? c.toNat

/-- Reads one number of four: up to three digits, with no zero before others, below 256. -/
def readOctet (cs : List Char) : Option (Nat × List Char) :=
  let digits := cs.takeWhile Decimal.isDigit
  let n := Decimal.value digits
  if digits.isEmpty || 3 < digits.length || (digits.head? == some '0' && 1 < digits.length)
      || 255 < n then none
  else some (n, cs.dropWhile Decimal.isDigit)

/-- Reads `count` more numbers, each with a point before it, after numbers of value `acc`. -/
def readOctets (acc : Nat) : Nat → List Char → Option (Nat × List Char)
  | 0, cs => some (acc, cs)
  | count + 1, '.' :: cs =>
    match readOctet cs with
    | some (n, rest) => readOctets (acc * 256 + n) count rest
    | none => none
  | _ + 1, _ => none

/-- Reads four numbers. -/
def readFour (cs : List Char) : Option (Nat × List Char) :=
  (readOctet cs).bind fun (n, rest) => readOctets n 3 rest

/-- Reads a group: up to four hexadecimal digits. -/
def readGroup (cs : List Char) : Option (Nat × List Char) :=
  let digits := cs.takeWhile fun c => (hexValue? c).isSome
  if digits.isEmpty || 4 < digits.length then none
  else
    some (digits.foldl (fun acc c => acc * 16 + (hexValue? c).getD 0) 0,
      cs.dropWhile fun c => (hexValue? c).isSome)

/-- The rest after a colon, which stands before every group but the first. -/
def afterColon (first : Bool) (cs : List Char) : Option (List Char) :=
  if first then some cs
  else
    match cs with
    | ':' :: rest => some rest
    | _ => none

/-- Groups that have been read. -/
structure Groups where
  values : List Nat
  /-- The last two were written as four numbers. -/
  endsInFour : Bool
  rest : List Char

/-- Reads as many groups as there are, at most `limit`. -/
def readGroups (first : Bool) : Nat → List Char → Groups
  | 0, cs => ⟨[], false, cs⟩
  | limit + 1, cs =>
    match if limit = 0 then none else (afterColon first cs).bind readFour with
    | some (n, rest) => ⟨[n / 65536, n % 65536], true, rest⟩
    | none =>
      match (afterColon first cs).bind readGroup with
      | some (n, rest) =>
        let more := readGroups false limit rest
        ⟨n :: more.values, more.endsInFour, more.rest⟩
      | none => ⟨[], false, cs⟩

/-- The number that groups stand for. -/
def groupsValue (groups : List Nat) : BitVec 128 :=
  BitVec.ofNat 128 (groups.foldl (fun acc g => acc * 65536 + g) 0)

/-- Reads eight groups, some of which may be left out. -/
def readEight (cs : List Char) : Option (BitVec 128 × List Char) :=
  let start := readGroups true 8 cs
  if start.values.length = 8 then some (groupsValue start.values, start.rest)
  else if start.endsInFour then none
  else
    match start.rest with
    | ':' :: ':' :: rest =>
      let tail := readGroups true (7 - start.values.length) rest
      let zeros := List.replicate (8 - start.values.length - tail.values.length) 0
      some (groupsValue (start.values ++ zeros ++ tail.values), tail.rest)
    | _ => none

/-- A zone stands behind a percent sign and is a number of 32 bits. -/
def isZone : List Char → Bool
  | '%' :: digits => (Decimal.value? digits).any (· < powerOfTwo 32)
  | rest => rest.isEmpty

/-- The address that a whole text without brackets is. -/
def ofBare? (s : String) : Option IpAddress :=
  match readFour s.toList, readEight s.toList with
  | some (n, []), _ => some (.v4 (BitVec.ofNat 32 n))
  | _, some (value, []) => some (.v6 value)
  | _, _ => none

/-- The address that a whole text is; one of eight groups stands in brackets. -/
def ofText? (s : String) : Option IpAddress :=
  match s.toList with
  | '[' :: cs =>
    match readEight cs with
    | some (value, rest) =>
      if rest.getLast? == some ']' && isZone rest.dropLast then some (.v6 value) else none
    | none => none
  | cs =>
    match readFour cs with
    | some (n, []) => some (.v4 (BitVec.ofNat 32 n))
    | _ => none

/-! ## Text -/

/-- The numeral of a number below 65536 in the digits 0 to f. -/
def hexText (n : Nat) : String := String.ofList (Hexadecimal.digits n)

/-- The text of four numbers. -/
def fourText (value : BitVec 32) : String :=
  let n := value.toNat
  String.intercalate "."
    ([n / 16777216, n / 65536 % 256, n / 256 % 256, n % 256].map Decimal.text)

/-- The eight groups of an address. -/
def groups (value : BitVec 128) : List Nat :=
  (List.range 8).map fun i => value.toNat / powerOfTwo (16 * (7 - i)) % 65536

/-- How many zeros stand in a row from a place on. -/
def zerosFrom (l : List Nat) (i : Nat) : Nat := ((l.drop i).takeWhile (· == 0)).length

/-- The place of the first of the longest runs of zeros. -/
def longestZeros (l : List Nat) : Nat :=
  (List.range l.length).foldl
    (fun best i => if zerosFrom l best < zerosFrom l i then i else best) 0

/-- Groups with colons between them. -/
def groupsText (l : List Nat) : String := String.intercalate ":" (l.map hexText)

/-- The text of eight groups. A run of zeros is left out if it is longer than one group, and an
address that stands for one of four numbers ends with them. -/
def eightText (value : BitVec 128) : String :=
  let n := value.toNat
  if n / 4294967296 = 65535 then "::ffff:" ++ fourText (BitVec.ofNat 32 n)
  else
    let l := groups value
    let start := longestZeros l
    let count := zerosFrom l start
    if 1 < count then
      groupsText (l.take start) ++ "::" ++ groupsText (l.drop (start + count))
    else groupsText l

/-- The text of an address, without brackets. -/
def text : IpAddress → String
  | v4 value => fourText value
  | v6 value => eightText value

/-! ## The machine itself -/

/-- Four numbers that stand for the machine itself: any that begin with 127, or only zeros. -/
def isOwnFour (n : Nat) : Bool := n / 16777216 == 127 || n == 0

/-- The address stands for the machine itself, whatever networks it is on. -/
def isOwn : IpAddress → Bool
  | v4 value => isOwnFour value.toNat
  | v6 value =>
    let n := value.toNat
    n ≤ 1 || (n / 4294967296 == 65535 && isOwnFour (n % 4294967296))

end IpAddress

end RpcConformance
