import RpcConformance.Json.Token

/-!
# Skipping JSON

Values that nobody asked for are skipped at any depth. Skipping looks at escapes only so far as
to find the end of a string, and at numbers only for their form.
-/

namespace RpcConformance.Json

/-- Skips a string after its opening quote, in at most as many steps as it has characters. -/
def skipStringBody : Nat → List Char → Except ReadError (List Char)
  | 0, _ => stop .endInString []
  | _ + 1, [] => stop .endInString []
  | fuel + 1, c :: rest =>
    if c = '"' then .ok rest
    else if c = '\\' then
      match rest with
      | [] => stop .endInString []
      | e :: after =>
        if e = 'u' then do
          let (_, after) ← readUnit after
          skipStringBody fuel after
        else if (shortEscape? e).isSome then skipStringBody fuel after
        else stopPast .badEscape rest
    else if c.toNat < 0x20 then stop .controlCharacter (c :: rest)
    else skipStringBody fuel rest

def skipStringRest (cs : List Char) : Except ReadError (List Char) :=
  skipStringBody (cs.length + 1) cs

/-- Skips an exponent after its letter. -/
def skipExponent (cs : List Char) : Except ReadError (List Char) :=
  let cs := match cs with
    | '+' :: rest => rest
    | '-' :: rest => rest
    | _ => cs
  if startsWithDigit cs then .ok (skipDigits cs) else stopPast .badNumber cs

/-- Skips an exponent, if there is one. -/
def skipRealEnd (cs : List Char) : Except ReadError (List Char) :=
  match cs with
  | 'e' :: rest => skipExponent rest
  | 'E' :: rest => skipExponent rest
  | _ => .ok cs

/-- Skips what follows the digits of a whole number. -/
def skipNumberEnd (cs : List Char) : Except ReadError (List Char) :=
  match cs with
  | '.' :: rest =>
    if startsWithDigit rest then skipRealEnd (skipDigits rest) else stopPast .badNumber rest
  | _ => skipRealEnd cs

/-- Skips a number after its sign. A number that is cut off is malformed here. -/
def skipNumber (cs : List Char) : Except ReadError (List Char) :=
  match cs with
  | '0' :: rest => if startsWithDigit rest then stopPast .badNumber rest else skipNumberEnd rest
  | _ => if startsWithDigit cs then skipNumberEnd (skipDigits cs) else stopPast .badNumber cs

/-- Skips a string, a number or a word that starts with the given character. -/
def skipScalar (c : Char) (rest : List Char) : Except ReadError (List Char) :=
  if c = '"' then skipStringRest rest
  else if c = 'n' then readWord ['u', 'l', 'l'] rest
  else if c = 't' then readWord ['r', 'u', 'e'] rest
  else if c = 'f' then readWord ['a', 'l', 's', 'e'] rest
  else if c = '-' then skipNumber rest
  else if Decimal.isDigit c then skipNumber (c :: rest)
  else stopPast .noValue (c :: rest)

/-- Skips a key and its colon. -/
def skipKey (cs : List Char) : Except ReadError (List Char) :=
  match skipSpace cs with
  | [] => stop .endInObject []
  | '"' :: rest => do
    let rest ← skipStringRest rest
    match skipSpace rest with
    | [] => stop .endInObject []
    | ':' :: rest => return rest
    | rest => stopPast .noColon rest
  | rest => stopPast .keyIsNoString rest

mutual

/-- Skips a value of any kind. -/
def skipValueWithin : Nat → List Char → Except ReadError (List Char)
  | 0, cs => stop .endInValue cs
  | fuel + 1, cs =>
    match skipSpace cs with
    | [] => stop .endInValue []
    | '[' :: rest => skipItems fuel true rest
    | '\x7b' :: rest => skipMembers fuel true rest
    | c :: rest => skipScalar c rest

/-- Skips the elements of a list and its end; the first one has no comma before it. -/
def skipItems : Nat → Bool → List Char → Except ReadError (List Char)
  | 0, _, cs => stop .endInValue cs
  | fuel + 1, first, cs =>
    match skipSpace cs with
    | [] => stop .endInList []
    | ']' :: rest => .ok rest
    | c :: rest =>
      if first then do
        let rest ← skipValueWithin fuel (c :: rest)
        skipItems fuel false rest
      else if c = ',' then do
        let rest ← skipValueWithin fuel rest
        skipItems fuel false rest
      else stopPast .noListEnd (c :: rest)

/-- Skips the members of an object and its end; the first one has no comma before it. -/
def skipMembers : Nat → Bool → List Char → Except ReadError (List Char)
  | 0, _, cs => stop .endInValue cs
  | fuel + 1, first, cs =>
    match skipSpace cs with
    | [] => stop .endInObject []
    | '\x7d' :: rest => .ok rest
    | c :: rest =>
      if first then do
        let rest ← skipKey (c :: rest)
        let rest ← skipValueWithin fuel rest
        skipMembers fuel false rest
      else if c = ',' then do
        let rest ← skipKey rest
        let rest ← skipValueWithin fuel rest
        skipMembers fuel false rest
      else stopPast .noObjectEnd (c :: rest)

end

/-- Skips a value. Every level of nesting and every element takes a character or more. -/
def skipValue (cs : List Char) : Except ReadError (List Char) :=
  skipValueWithin (2 * cs.length + 2) cs

end RpcConformance.Json
