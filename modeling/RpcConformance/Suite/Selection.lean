import RpcConformance.Scenario.Basic

/-!
# Selecting scenarios

A scenario is selected by its name or its category; with neither given, all are. Of the
selected ones those are run whose requirements the target meets, and a line is logged for each
of the others. The names are looked at first, so a selection that fails has logged nothing.
-/

namespace RpcConformance

/-- Names and categories of scenarios to run. -/
structure Selection where
  names : List String := []
  categories : List Category := []
deriving DecidableEq

/-- The name of a scenario that does not exist. -/
inductive SelectionError
  | unknownScenario (name : String)
deriving DecidableEq

namespace SelectionError

def message : SelectionError → String
  | unknownScenario name => "unknown scenario: " ++ name

end SelectionError

namespace Selection

def isEmpty (s : Selection) : Bool := s.names.isEmpty && s.categories.isEmpty

/-- The scenario is selected. -/
def selects (s : Selection) (info : ScenarioInfo) : Bool :=
  s.isEmpty || s.names.contains info.name || s.categories.contains info.category

end Selection

/-- Every requirement of the scenario is met. -/
def Capabilities.meets (c : Capabilities) (info : ScenarioInfo) : Bool :=
  info.requires.all c.supports

namespace Selection

variable {ρ : Type}

/-- The first selected name that no scenario has. -/
def unknownName? (s : Selection) (scenarios : List (Scenario ρ)) : Option String :=
  s.names.find? fun name => !scenarios.any (·.name == name)

/-- The selected scenarios, in order. -/
def selected (s : Selection) (scenarios : List (Scenario ρ)) : List (Scenario ρ) :=
  scenarios.filter fun x => s.selects x.toScenarioInfo

/-- What is logged for a scenario that cannot be run. -/
def skipMessage (info : ScenarioInfo) : String :=
  "skipping " ++ info.name ++ ": requires " ++ info.requirementText

/-- Goes through scenarios in order: those that can be run, and what is logged for the others. -/
def sift (c : Capabilities) : List (Scenario ρ) → List (Scenario ρ) × List String
  | [] => ([], [])
  | x :: rest =>
    let (kept, log) := sift c rest
    if c.meets x.toScenarioInfo then (x :: kept, log)
    else (kept, skipMessage x.toScenarioInfo :: log)

/-- Selects scenarios that can be run, with the lines that are logged meanwhile. -/
def selectLogging (s : Selection) (scenarios : List (Scenario ρ)) (c : Capabilities) :
    Except SelectionError (List (Scenario ρ)) × List String :=
  match s.unknownName? scenarios with
  | some name => (.error (.unknownScenario name), [])
  | none =>
    let (kept, log) := sift c (s.selected scenarios)
    (.ok kept, log)

/-- The selected scenarios that can be run. -/
def select (s : Selection) (scenarios : List (Scenario ρ)) (c : Capabilities) :
    Except SelectionError (List (Scenario ρ)) :=
  (s.selectLogging scenarios c).1

end Selection

end RpcConformance
