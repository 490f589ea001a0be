import RpcConformance.Text.Decimal

/-!
# Command-line arguments

A program takes options only. An option begins with two hyphens; its value follows as an
argument of its own, or in the same one after an equals sign. An option may be given once
unless it is said to be repeatable. The first argument that breaks a rule decides, and a
request for help counts as one.
-/

namespace RpcConformance.CommandLine

/-- What an option does to the settings of a program. -/
inductive Effect (σ : Type)
  | flag (set : σ → σ)
  /-- Reads a value; some texts may be none. -/
  | value (set? : String → Option (σ → σ))

/-- An option that a program knows. -/
structure OptionRule (σ : Type) where
  name : String
  repeatable : Bool
  effect : Effect σ

namespace OptionRule

variable {σ : Type}

/-- The option stands alone. -/
def isFlag (r : OptionRule σ) : Bool :=
  match r.effect with
  | .flag _ => true
  | .value _ => false

/-- An option that stands alone. -/
def flag (name : String) (set : σ → σ) : OptionRule σ := ⟨name, false, .flag set⟩

/-- An option with a value, to be given once. -/
def single {α : Type} (name : String) (read : String → Option α) (set : α → σ → σ) :
    OptionRule σ :=
  ⟨name, false, .value fun s => (read s).map set⟩

/-- An option with a value, to be given any number of times. -/
def repeated {α : Type} (name : String) (read : String → Option α) (set : α → σ → σ) :
    OptionRule σ :=
  ⟨name, true, .value fun s => (read s).map set⟩

end OptionRule

/-- Why a program does not start. -/
inductive UsageError
  | helpAsked
  | unknown (argument : String)
  | missingValue (option : String)
  | unexpectedValue (option : String)
  | givenTwice (option : String)
  | invalidValue (option value : String)
deriving DecidableEq

namespace UsageError

/-- The exit code of a program that does not start. -/
def exitCode : UsageError → Nat
  | helpAsked => 0
  | _ => 2

end UsageError

/-! ## Values -/

/-- A number of at most `bits` bits; it may have a sign, but nothing below zero is one. -/
def readNumber (bits : Nat) (s : String) : Option Nat :=
  match s.toList with
  | '-' :: rest => (Decimal.value? rest).filter (· = 0)
  | _ => Decimal.unsigned? bits s

/-- One of several named values. -/
def readChoice {α : Type} (choices : List (String × α)) (s : String) : Option α :=
  choices.lookup s

/-! ## Reading -/

/-- What an argument looks like. -/
inductive Shape
  /-- Two hyphens, a name, and perhaps a value. -/
  | long (name : List Char) (value : Option (List Char))
  /-- Only two hyphens: what follows is no option. -/
  | escape
  /-- A hyphen and letters. -/
  | short (letters : List Char)
  | plain
deriving DecidableEq

/-- The shape of an argument. A single hyphen is plain. -/
def shape (argument : String) : Shape :=
  match argument.toList with
  | ['-', '-'] => .escape
  | '-' :: '-' :: cs =>
    let rest := cs.dropWhile (· ≠ '=')
    .long (cs.takeWhile (· ≠ '=')) (if rest.isEmpty then none else some (rest.drop 1))
  | '-' :: c :: cs => .short (c :: cs)
  | _ => .plain

/-- An argument can be the value of the option before it. -/
def isValue (argument : String) : Bool := shape argument = .plain

variable {σ : Type}

/-- Takes an option with its value, which must be none for a flag. -/
def take (rule : OptionRule σ) (given : List String) (value : String) (settings : σ) :
    Except UsageError σ :=
  if !rule.repeatable && given.contains rule.name then .error (.givenTwice rule.name)
  else
    match rule.effect with
    | .flag set => .ok (set settings)
    | .value set? =>
      match set? value with
      | some set => .ok (set settings)
      | none => .error (.invalidValue rule.name value)

/-- Changes settings by arguments; `given` holds the options before them. -/
def readFrom (rules : List (OptionRule σ)) (given : List String) (settings : σ) :
    List String → Except UsageError σ
  | [] => .ok settings
  | argument :: rest =>
    match shape argument with
    | .plain => .error (.unknown argument)
    | .short letters => .error (if letters.head? = some 'h' then .helpAsked else .unknown argument)
    | .escape =>
      match rest with
      | [] => .ok settings
      | next :: _ => .error (.unknown next)
    | .long name attached =>
      match rules.find? (·.name.toList = name) with
      | none => .error (if argument = "--help" then .helpAsked else .unknown argument)
      | some rule =>
        match rule.isFlag, attached with
        | true, some _ => .error (.unexpectedValue rule.name)
        | true, none => do
          let settings ← take rule given "" settings
          readFrom rules (rule.name :: given) settings rest
        | false, some value => do
          let settings ← take rule given (String.ofList value) settings
          readFrom rules (rule.name :: given) settings rest
        | false, none =>
          match rest with
          | [] => .error (.missingValue rule.name)
          | value :: rest =>
            if isValue value then do
              let settings ← take rule given value settings
              readFrom rules (rule.name :: given) settings rest
            else .error (.missingValue rule.name)

/-- Changes settings by all arguments of a program. -/
def read (rules : List (OptionRule σ)) (settings : σ) (arguments : List String) :
    Except UsageError σ :=
  readFrom rules [] settings arguments

/-- What a program says when it is asked for help. -/
def helpText (program : String) (rules : List (OptionRule σ)) : String :=
  "Usage: " ++ program ++ " [OPTIONS]\n\nOptions:\n"
    ++ String.join (rules.map fun r =>
      "  --" ++ r.name ++ (if r.isFlag then "" else " <VALUE>") ++ "\n")

end RpcConformance.CommandLine
