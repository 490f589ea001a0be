import RpcConformance.Category
import RpcConformance.Json.Value

/-!
# Summaries

What came of each scenario of a run, as text for people and as JSON for programs.
-/

namespace RpcConformance

/-- What came of a scenario; one that did not pass has a message. -/
structure ScenarioOutcome where
  name : String
  category : Category
  passed : Bool
  elapsedMillis : Nat := 0
  message : Option String := none
deriving DecidableEq

/-- What came of a run. -/
structure Summary where
  outcomes : List ScenarioOutcome := []
deriving DecidableEq

namespace Summary

/-- Every scenario passed. -/
def passed (s : Summary) : Bool := s.outcomes.all (·.passed)

def passedCount (s : Summary) : Nat := (s.outcomes.filter (·.passed)).length

def failedCount (s : Summary) : Nat := s.outcomes.length - s.passedCount

/-- An outcome as a JSON object; a message that is absent is left out. -/
def outcomeJson (o : ScenarioOutcome) : Json :=
  .obj ([("name", .str o.name), ("category", .str o.category.name), ("passed", .bool o.passed),
      ("elapsed_ms", .int o.elapsedMillis)]
    ++ match o.message with
      | some m => [("message", .str m)]
      | none => [])

def toJson (s : Summary) : Json :=
  .obj [("passed", .int s.passedCount), ("failed", .int s.failedCount),
    ("outcomes", .arr (s.outcomes.map outcomeJson))]

/-- The summary as JSON over several lines. -/
def jsonText (s : Summary) : String := s.toJson.prettyText

/-- The line of an outcome. -/
def outcomeLine (o : ScenarioOutcome) : String :=
  (if o.passed then "PASS " else "FAIL ") ++ o.name ++ " (" ++ Decimal.text o.elapsedMillis
    ++ " ms)" ++ (match o.message with
      | some m => ": " ++ m
      | none => "") ++ "\n"

/-- The summary as text: a line for each outcome, and the totals. -/
def text (s : Summary) : String :=
  String.join (s.outcomes.map outcomeLine) ++ Decimal.text s.passedCount ++ " passed, "
    ++ Decimal.text s.failedCount ++ " failed"

end Summary

end RpcConformance
