import RpcConformance.Scenario.Basic
import RpcConformance.Suite.Summary

/-!
# Running scenarios

Scenarios run one after another. A fatal failure ends only the scenario that raised it, and a
scenario passes if it ended well and reported no failure. Times of outcomes are those of the
clock on the wall, by which a run takes no time.
-/

namespace RpcConformance.Suite

variable {ρ : Type} [Reporter ρ]

/-- What is said of a scenario that went on after an error and never reported the end. -/
def errorsReported : String := "errors were reported"

/-- The outcome of a scenario that was not halted, or halted by a fatal failure. -/
def outcomeOf (info : ScenarioInfo) (fatal : Option Fatal) (failed : Bool) : ScenarioOutcome :=
  match fatal with
  | some f => ⟨info.name, info.category, false, 0, some f.message⟩
  | none =>
    if failed then ⟨info.name, info.category, false, 0, some errorsReported⟩
    else ⟨info.name, info.category, true, 0, none⟩

/-- A bench after a scenario, whose calls are given up. -/
def cleared (b : Bench ρ) : Bench ρ := { b with session := b.session.abandonAll }

/-- Runs one scenario. -/
def runOne (c : Context) (s : Scenario ρ) : ScenarioM ρ ScenarioOutcome := fun b =>
  match s.run c { b with reporter := Reporter.begin s.name b.reporter } with
  | (.ok (), b) =>
    (.ok (outcomeOf s.toScenarioInfo none (Reporter.failed b.reporter)), cleared b)
  | (.error (.fatal f), b) => (.ok (outcomeOf s.toScenarioInfo (some f) true), cleared b)
  | (.error h, b) => (.error h, b)

/-- Runs scenarios in order, up to what ends the program. -/
def runAll (c : Context) : List (Scenario ρ) → ScenarioM ρ (List ScenarioOutcome)
  | [] => pure []
  | s :: rest => do
    let outcome ← runOne c s
    let outcomes ← runAll c rest
    return outcome :: outcomes

/-- Runs scenarios in order. -/
def run (c : Context) (scenarios : List (Scenario ρ)) : ScenarioM ρ Summary := do
  let outcomes ← runAll c scenarios
  return ⟨outcomes⟩

end RpcConformance.Suite
