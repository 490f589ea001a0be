import RpcConformance.Category
import RpcConformance.Client.Basic
import RpcConformance.IpAddress
import RpcConformance.Overflow
import RpcConformance.Reporter.Basic

/-!
# Scenarios

A scenario is a procedure that works with a client and reports what it finds. It ends well, or
it is halted: by a fatal failure, which ends only the scenario, or by something that ends the
whole program.
-/

namespace RpcConformance

/-- What halts a scenario. -/
inductive Halt
  | fatal (f : Fatal)
  /-- The reporter ended the program. -/
  | exited (code : Nat)
  /-- Arithmetic left its range. -/
  | crashed (o : Overflow)
  /-- The scenario waits for something that never comes. -/
  | stuck
deriving DecidableEq

/-- What a scenario works on: the reporter, the client's world, and the log. -/
structure Bench (ρ : Type) where
  reporter : ρ
  session : Session
  log : List String

/-- A procedure over a bench, which may be halted. -/
def ScenarioM (ρ α : Type) : Type := Bench ρ → Except Halt α × Bench ρ

namespace ScenarioM

variable {ρ α β : Type}

instance : Monad (ScenarioM ρ) where
  pure a := fun b => (.ok a, b)
  bind m f := fun b =>
    match m b with
    | (.ok a, b) => f a b
    | (.error h, b) => (.error h, b)

/-- Ends the procedure. -/
def halt (h : Halt) : ScenarioM ρ α := fun b => (.error h, b)

/-- Runs an operation that changes the client's world. -/
def onSession (f : Session → α × Session) : ScenarioM ρ α := fun b =>
  let (a, s) := f b.session
  (.ok a, { b with session := s })

/-- Runs an operation that may wait forever. -/
def await (f : Session → Outcome α × Session) : ScenarioM ρ α := fun b =>
  match f b.session with
  | (.answered a, s) => (.ok a, { b with session := s })
  | (.unfinished, s) => (.error .stuck, { b with session := s })

/-- The present instant. -/
def now : ScenarioM ρ Instant := fun b => (.ok b.session.moment.now, b)

/-- A new scope. -/
def newScope (deadline : Option Instant) : ScenarioM ρ Scope := onSession (·.newScope deadline)

/-- Options with no metadata and a scope that nothing triggers. -/
def plainOptions : ScenarioM ρ CallOptions := do
  let scope ← newScope none
  return ⟨.empty, scope⟩

/-- Writes a line to the log. -/
def log (line : String) : ScenarioM ρ Unit := fun b => (.ok (), { b with log := b.log ++ [line] })

/-- The result of arithmetic that may leave its range. -/
def checked (r : Except Overflow α) : ScenarioM ρ α :=
  match r with
  | .ok a => pure a
  | .error o => halt (.crashed o)

/-! ## Reports -/

variable [Reporter ρ]

/-- Makes a report. -/
def report (f : ρ → Reported ρ α) : ScenarioM ρ α := fun b =>
  match f b.reporter with
  | .returned a r => (.ok a, { b with reporter := r })
  | .exited code r => (.error (.exited code), { b with reporter := r })

/-- Reports an error and goes on. -/
def error (message : String) : ScenarioM ρ Unit := fun b =>
  (.ok (), { b with reporter := Reporter.error message b.reporter })

/-- Reports a fatal failure, which ends the scenario. -/
def fatal (message : String) : ScenarioM ρ α := do
  let f ← report (Reporter.fatal message)
  halt (.fatal f)

/-- Reports success. -/
def success (message : String) : ScenarioM ρ Unit := report (Reporter.success message)

/-- Ends the scenario as failed. -/
def failNow : ScenarioM ρ α := do
  let f ← report Reporter.failNow
  halt (.fatal f)

/-- Reports an error unless a condition holds. -/
def check (condition : Bool) (message : String) : ScenarioM ρ Unit :=
  if condition then pure () else error message

/-- What is said of a value that is not the wanted one. -/
def mismatchMessage (what actual expected : String) : String :=
  what ++ ": got " ++ actual ++ ", want " ++ expected

/-- Reports an error unless two values are equal. -/
def checkEq [DecidableEq β] (show_ : β → String) (actual expected : β) (what : String) :
    ScenarioM ρ Unit :=
  if actual = expected then pure ()
  else error (mismatchMessage what (show_ actual) (show_ expected))

/-- Ends the scenario with a fatal report unless a condition holds. -/
def require (condition : Bool) (message : String) : ScenarioM ρ Unit :=
  if condition then pure () else fatal message

/-- The value of a result; an error ends the scenario with a fatal report that names it. -/
def requireOk {ε : Type} (show_ : ε → String) (r : Except ε β) (what : String) :
    ScenarioM ρ β :=
  match r with
  | .ok a => pure a
  | .error e => fatal (what ++ ": " ++ show_ e)

end ScenarioM

/-- Which of several addresses a server listens on. -/
structure Network where
  /-- The port of the server on the local host, if there is one. -/
  port : Option Nat

namespace Network

/-- The address of the server. -/
def serverAddress : Nat := 127 * 16777216 + 1

/-- An address of four numbers leads to the server: its own, or the one that stands for any. -/
def isServer (n : Nat) : Bool := n == serverAddress || n == 0

/-- The machine is the one that the server runs on, under an address that it listens on. -/
def isLocal (machine : String) : Bool :=
  match IpAddress.ofBare? machine with
  | some (.v4 value) => isServer value.toNat
  | some (.v6 value) =>
    value.toNat / 4294967296 == 65535 && isServer (value.toNat % 4294967296)
  | none => machine.map Char.toLower == "localhost"

/-- A server listens at the address. -/
def reaches (n : Network) (c : Target) : Bool :=
  n.port == some c.dialledPort && isLocal c.machine

end Network

/-- How the soak scenario runs. -/
structure SoakPlan where
  /-- Makes a new client for every iteration. -/
  resetChannel : Bool := false
  iterations : Nat := 10
  maxFailures : Nat := 0
  maxLatency : Duration := .ofMillis 1000
  overallTimeout : Duration := .ofSecs 10
deriving DecidableEq

/-- What a scenario may use besides the reporter. -/
structure Context where
  client : Client
  sizes : Sizes := .extended
  soak : SoakPlan := {}
  /-- The address of the scenario that calls a host without a server. -/
  unresolvable : Target := { host := Agreed.unresolvableHost, port := 80 }
  network : Network

/-- The name of a scenario, and what selects it. -/
structure ScenarioInfo where
  name : String
  category : Category
  requires : List Requirement := []
deriving DecidableEq

/-- A named procedure. -/
structure Scenario (ρ : Type) extends ScenarioInfo where
  run : Context → ScenarioM ρ Unit

namespace ScenarioInfo

/-- The requirements as a list in brackets. -/
def requirementText (s : ScenarioInfo) : String :=
  Text.bracketed (s.requires.map Requirement.identifier)

/-- A scenario as a report shows it. -/
def describe (s : ScenarioInfo) : String :=
  "Scenario \x7b name: " ++ Text.quoted s.name ++ ", category: " ++ s.category.identifier
    ++ ", requires: " ++ s.requirementText ++ ", .. \x7d"

/-- A scenario as a line of a listing. -/
def listingLine (s : ScenarioInfo) : String :=
  s.name ++ "\t" ++ s.category.name ++
    if s.requires.isEmpty then "" else "\t" ++ s.requirementText

/-- One line for each scenario. -/
def listing (l : List ScenarioInfo) : String :=
  String.intercalate "\n" (l.map listingLine)

end ScenarioInfo

end RpcConformance
