import RpcConformance.Json.Text
import RpcConformance.Text.Decimal

/-!
# JSON values and their two written forms

The compact form has no white space. The pretty form puts every element and member on a line
of its own, indented by two spaces a level; an empty list or object stays `[]` or `{}`.
-/

namespace RpcConformance

/-- A JSON value; the members of an object keep their order. -/
inductive Json
  | null
  | bool (b : Bool)
  | int (i : Int)
  | str (s : String)
  | arr (items : List Json)
  | obj (members : List (String × Json))

namespace Json

mutual

/-- The form without white space. -/
def compact : Json → List Char
  | null => ['n', 'u', 'l', 'l']
  | bool true => ['t', 'r', 'u', 'e']
  | bool false => ['f', 'a', 'l', 's', 'e']
  | int i => Decimal.signedDigits i
  | str s => string s.toList
  | arr items => '[' :: compactItems items ++ [']']
  | obj members => '\x7b' :: compactMembers members ++ ['\x7d']

def compactItems : List Json → List Char
  | [] => []
  | [v] => v.compact
  | v :: w :: rest => v.compact ++ ',' :: compactItems (w :: rest)

def compactMembers : List (String × Json) → List Char
  | [] => []
  | [(k, v)] => string k.toList ++ ':' :: v.compact
  | (k, v) :: m :: rest => string k.toList ++ ':' :: v.compact ++ ',' :: compactMembers (m :: rest)

end

/-- A line break and the indentation of a level. -/
def newline (level : Nat) : List Char := '\n' :: List.replicate (2 * level) ' '

mutual

/-- The form with one element or member a line, at the given level of nesting. -/
def pretty (level : Nat) : Json → List Char
  | null => ['n', 'u', 'l', 'l']
  | bool true => ['t', 'r', 'u', 'e']
  | bool false => ['f', 'a', 'l', 's', 'e']
  | int i => Decimal.signedDigits i
  | str s => string s.toList
  | arr [] => ['[', ']']
  | arr (v :: rest) => '[' :: prettyItems (level + 1) (v :: rest) ++ newline level ++ [']']
  | obj [] => ['\x7b', '\x7d']
  | obj (m :: rest) =>
    '\x7b' :: prettyMembers (level + 1) (m :: rest) ++ newline level ++ ['\x7d']

def prettyItems (level : Nat) : List Json → List Char
  | [] => []
  | [v] => newline level ++ v.pretty level
  | v :: w :: rest => newline level ++ v.pretty level ++ ',' :: prettyItems level (w :: rest)

def prettyMembers (level : Nat) : List (String × Json) → List Char
  | [] => []
  | [(k, v)] => newline level ++ string k.toList ++ ':' :: ' ' :: v.pretty level
  | (k, v) :: m :: rest =>
    newline level ++ string k.toList ++ ':' :: ' ' :: v.pretty level
      ++ ',' :: prettyMembers level (m :: rest)

end

/-- The compact form as a text. -/
def compactText (v : Json) : String := String.ofList v.compact

/-- The pretty form as a text. -/
def prettyText (v : Json) : String := String.ofList (v.pretty 0)

end Json

end RpcConformance
