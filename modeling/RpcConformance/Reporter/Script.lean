import RpcConformance.Scenario.Basic

/-!
# Scripts of reports

A script is a procedure that does nothing but report. A nested script is a function of its own:
its first fatal failure skips the rest of it, and becomes the failure of the step that called
it.
-/

namespace RpcConformance

/-- A value that a report shows. -/
inductive Shown
  | int (i : Int)
  | text (s : String)
  | ints (l : List Int)
  | texts (l : List String)
deriving DecidableEq

def Shown.describe : Shown → String
  | int i => Decimal.signedText i
  | text s => Text.quoted s
  | ints l => Text.bracketed (l.map Decimal.signedText)
  | texts l => Text.bracketed (l.map Text.quoted)

/-- A step of a script. -/
inductive ReportStep
  | begin (scenario : String)
  /-- Does nothing. -/
  | helper
  | error (message : String)
  | success (message : String)
  | fatal (message : String)
  | failNow
  /-- Ends the script with a failure that was not reported. -/
  | giveUp (message : String)
  | check (condition : Bool) (message : String)
  | require (condition : Bool) (message : String)
  | checkEq (actual expected : Shown) (what : String)
  | requireOk (error : Option String) (what : String)
  | scenario (steps : List ReportStep)

namespace ReportStep

open ScenarioM

variable {ρ : Type} [Reporter ρ]

mutual

/-- Performs a step. -/
def run : ReportStep → ScenarioM ρ Unit
  | begin name => fun b => (.ok (), { b with reporter := Reporter.begin name b.reporter })
  | helper => pure ()
  | error message => ScenarioM.error message
  | success message => ScenarioM.success message
  | fatal message => ScenarioM.fatal message
  | failNow => ScenarioM.failNow
  | giveUp message => halt (.fatal ⟨message⟩)
  | check condition message => ScenarioM.check condition message
  | require condition message => ScenarioM.require condition message
  | checkEq actual expected what => ScenarioM.checkEq Shown.describe actual expected what
  | requireOk none _ => pure ()
  | requireOk (some e) what => ScenarioM.fatal (what ++ ": " ++ e)
  | scenario steps => runAll steps

/-- Performs steps up to the first fatal one. -/
def runAll : List ReportStep → ScenarioM ρ Unit
  | [] => pure ()
  | s :: rest => do
    s.run
    runAll rest

end

/-- What a step of the outermost script gave: whether the scenario has failed by then, and the
failure that ended the step. -/
structure StepResult (ρ : Type) where
  fatal : Option Fatal
  after : Bench ρ

/-- Performs the steps of the outermost script one by one. A fatal failure ends only its step;
what ends the program ends the script, and is given with the bench after it. -/
def trace : List ReportStep → Bench ρ → List (StepResult ρ) × Option (Halt × Bench ρ)
  | [], _ => ([], none)
  | s :: rest, b =>
    match s.run b with
    | (.ok (), b) =>
      let (results, h) := trace rest b
      (⟨none, b⟩ :: results, h)
    | (.error (.fatal f), b) =>
      let (results, h) := trace rest b
      (⟨some f, b⟩ :: results, h)
    | (.error h, b) => ([], some (h, b))

end ReportStep

/-- A bench for scenarios that only report. -/
def Bench.idle {ρ : Type} (r : ρ) : Bench ρ := ⟨r, .start (.scripted []), []⟩

end RpcConformance
