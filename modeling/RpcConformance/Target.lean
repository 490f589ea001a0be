import RpcConformance.Text.Decimal
import RpcConformance.Text.Utf8
import RpcConformance.Time

/-!
# Addresses

A client names its server by a URI made of the host and the port. Whether the URI can be
dialled is a matter of its characters: an authority in which brackets occur at most once, with
at most one colon outside of them, and then perhaps a path and a query. Which machine and port
are dialled is a matter of the authority alone, so a host with a path brings its own port.
-/

namespace RpcConformance

/-- How a client reaches a server. -/
structure Target where
  host : String := "localhost"
  port : Nat := 8080
  /-- Compresses requests, and accepts compressed responses. -/
  compression : Bool := false
  connectTimeout : Duration := .ofSecs 10
deriving DecidableEq

namespace Target

/-- The address as a URI. -/
def uri (c : Target) : String := "http://" ++ c.host ++ ":" ++ Decimal.text c.port

end Target

namespace Authority

/-- A letter, a digit, or a mark that may stand in an authority. -/
def isPlain (b : UInt8) : Bool :=
  let n := b.toNat
  (48 ≤ n && n ≤ 57) || (65 ≤ n && n ≤ 90) || (97 ≤ n && n ≤ 122)
    || "!$&'()*+,-.;=_~".toList.any (·.toNat == n)

/-- Why a URI cannot be dialled. -/
inductive Fault
  | tooLong
  | badCharacter
  | badAuthority
  /-- There is no authority. -/
  | badFormat
deriving DecidableEq

def Fault.message : Fault → String
  | .tooLong => "uri too long"
  | .badCharacter => "invalid uri character"
  | .badAuthority => "invalid authority"
  | .badFormat => "invalid format"

/-- What has been seen of an authority. -/
structure Seen where
  /-- Colons since the last closing bracket or `@`. -/
  colons : Nat := 0
  opened : Bool := false
  closed : Bool := false
  /-- A `%` since the last closing bracket or `@`. -/
  percent : Bool := false
  /-- The last byte is an `@`. -/
  endsWithAt : Bool := false
  length : Nat := 0

/-- Most colons in a row of groups, those of an address in brackets and of its port. -/
def maxColons : Nat := 8

/-- Takes one byte, unless it may not stand there. -/
def Seen.take (s : Seen) (b : UInt8) : Except Fault Seen :=
  let s' := { s with endsWithAt := false, length := s.length + 1 }
  if b = 0x3A then
    if maxColons ≤ s.colons then .error .badAuthority
    else .ok { s' with colons := s.colons + 1 }
  else if b = 0x5B then
    if s.percent || s.opened then .error .badAuthority else .ok { s' with opened := true }
  else if b = 0x5D then
    if !s.opened || s.closed then .error .badAuthority
    else .ok { s' with closed := true, colons := 0, percent := false }
  else if b = 0x40 then .ok { s' with endsWithAt := true, colons := 0, percent := false }
  else if b = 0x25 then .ok { s' with percent := true }
  else if isPlain b then .ok s'
  else .error .badCharacter

/-- What keeps the bytes that have been seen from being an authority. -/
def Seen.fault? (s : Seen) : Option Fault :=
  if s.opened != s.closed || 1 < s.colons || s.endsWithAt || s.percent then some .badAuthority
  else if s.length = 0 then some .badFormat
  else none

/-- Reads the authority at the start of some bytes, up to a slash, a question mark or a number
sign; gives the bytes after it. -/
def split : Seen → List UInt8 → Except Fault (Seen × List UInt8)
  | s, [] => .ok (s, [])
  | s, b :: rest =>
    if b = 0x2F ∨ b = 0x3F ∨ b = 0x23 then .ok (s, b :: rest)
    else
      match s.take b with
      | .ok s => split s rest
      | .error e => .error e

/-- A byte that may stand in a query. -/
def isQueryByte (b : UInt8) : Bool :=
  let n := b.toNat
  n == 0x21 || (0x24 ≤ n && n ≤ 0x3B) || n == 0x3D || (0x3F ≤ n && n != 0x7F)

/-- A byte that may stand in a path. -/
def isPathByte (b : UInt8) : Bool :=
  let n := b.toNat
  n == 0x21 || n == 0x22 || (0x24 ≤ n && n ≤ 0x3B) || n == 0x3D || (0x40 ≤ n && n ≤ 0x5F)
    || (0x61 ≤ n && n != 0x7F)

/-- The bytes up to a fragment. -/
def beforeFragment (bytes : List UInt8) : List UInt8 := bytes.takeWhile (· ≠ 0x23)

/-- A path, a query, or both, and perhaps a fragment, which may hold anything. -/
def isPathAndQuery (bytes : List UInt8) : Bool :=
  let bytes := beforeFragment bytes
  (bytes.takeWhile (· ≠ 0x3F)).all isPathByte
    && ((bytes.dropWhile (· ≠ 0x3F)).drop 1).all isQueryByte

end Authority

namespace Target

/-- The most bytes that a URI may have. -/
def maxUriLength : Nat := 65534

/-- What keeps the URI from being dialled. -/
def fault? (c : Target) : Option Authority.Fault :=
  if maxUriLength < (Utf8.encode c.uri).length then some .tooLong
  else
    match Authority.split {} (Utf8.encode (c.host ++ ":" ++ Decimal.text c.port)) with
    | .error e => some e
    | .ok (seen, rest) =>
      match seen.fault? with
      | some e => some e
      | none => if Authority.isPathAndQuery rest then none else some .badCharacter

/-- The URI can be dialled. -/
def dialable (c : Target) : Bool := c.fault?.isNone

/-- The authority of the URI: what stands before a path, a query and a fragment. -/
def authority (c : Target) : List Char :=
  (c.host ++ ":" ++ Decimal.text c.port).toList.takeWhile fun h => h ≠ '/' && h ≠ '?' && h ≠ '#'

/-- What stands after the last of some characters, or everything where there is none. -/
def afterLast (mark : Char) (cs : List Char) : List Char :=
  (cs.reverse.takeWhile (· ≠ mark)).reverse

/-- The machine that the URI names: the authority without a user before it, a port after it,
and brackets around it. -/
def machine (c : Target) : String :=
  match afterLast '@' c.authority with
  | '[' :: cs => String.ofList (cs.takeWhile (· ≠ ']'))
  | cs =>
    let host := cs.takeWhile (· ≠ ':')
    String.ofList ((host.reverse.dropWhile (· == ']')).reverse)

/-- The port of a URI that names none. -/
def defaultPort : Nat := 80

/-- The port that is dialled: the number after the last colon of the authority, if one is
there. -/
def dialledPort (c : Target) : Nat :=
  let port := if c.authority.contains ':' then afterLast ':' c.authority else []
  (Decimal.unsigned? 16 (String.ofList port)).getD defaultPort

/-- What is said of a URI that cannot be dialled. -/
def invalidMessage (c : Target) : String := "invalid server address " ++ c.uri

end Target

end RpcConformance
