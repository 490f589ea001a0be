import RpcConformance.Reporter.Recorder
import RpcConformance.Reporter.Script

/-!
# Functions that only report

A function that acts on nothing but its reporter is known by what it reports next.  A fatal failure
comes back to it as a value, which it may return, keep or drop, so what follows may depend on that
value.  Every script is such a function, and two scripts one after another are one.

## Main results

* `Reporting.perform_andThen` — one function after another.
* `ReportStep.perform_reporting`, `ReportStep.perform_reportingAll` — scripts only report.
-/

namespace RpcConformance

/-- A function that acts on nothing but its reporter, by what it does next. -/
inductive Reporting
  /-- It ends well. -/
  | finished
  /-- It ends with a fatal failure, reported or not. -/
  | gaveUp (f : Fatal)
  | helper (rest : Reporting)
  | begin (scenario : String) (rest : Reporting)
  | error (message : String) (rest : Reporting)
  | success (message : String) (rest : Reporting)
  | fatal (message : String) (rest : Fatal → Reporting)
  | failNow (rest : Fatal → Reporting)

namespace Reporting

variable {ρ : Type} [Reporter ρ]

/-- Performs what is next, and then the rest. -/
def perform : Reporting → ScenarioM ρ Unit
  | finished => pure ()
  | gaveUp f => ScenarioM.halt (.fatal f)
  | helper rest => rest.perform
  | begin scenario rest => do
    (ReportStep.begin scenario).run
    rest.perform
  | error message rest => do
    ScenarioM.error message
    rest.perform
  | success message rest => do
    ScenarioM.success message
    rest.perform
  | fatal message rest => do
    let f ← ScenarioM.report (Reporter.fatal message)
    (rest f).perform
  | failNow rest => do
    let f ← ScenarioM.report Reporter.failNow
    (rest f).perform

/-- How a function ends that returns: well, or with a fatal failure. -/
def returned : Option Fatal → Except Halt Unit
  | none => .ok ()
  | some f => .error (.fatal f)

/-- It begins no scenario of its own. -/
def NeverBegins : Reporting → Prop
  | finished => True
  | gaveUp _ => True
  | helper rest => rest.NeverBegins
  | begin _ _ => False
  | error _ rest => rest.NeverBegins
  | success _ rest => rest.NeverBegins
  | fatal _ rest => ∀ f, (rest f).NeverBegins
  | failNow rest => ∀ f, (rest f).NeverBegins

/-- One function, and another one where the first ends well. -/
def andThen : Reporting → Reporting → Reporting
  | finished, next => next
  | gaveUp f, _ => gaveUp f
  | helper rest, next => helper (rest.andThen next)
  | begin scenario rest, next => begin scenario (rest.andThen next)
  | error message rest, next => error message (rest.andThen next)
  | success message rest, next => success message (rest.andThen next)
  | fatal message rest, next => fatal message fun f => (rest f).andThen next
  | failNow rest, next => failNow fun f => (rest f).andThen next

end Reporting

instance {ρ : Type} : LawfulMonad (ScenarioM ρ) :=
  LawfulMonad.mk' (ScenarioM ρ)
    (fun m => by
      funext b
      show (match m b with
        | (.ok a, b) => (.ok a, b)
        | (.error h, b) => (.error h, b)) = m b
      rcases m b with ⟨h | a, b'⟩ <;> rfl)
    (fun a f => rfl)
    (fun m f g => by
      funext b
      simp only [bind]
      rcases m b with ⟨h | a, b'⟩ <;> rfl)

namespace Reporting

variable {ρ : Type} [Reporter ρ]

/-- **One function after another** is the two of them together. -/
theorem perform_andThen (first next : Reporting) :
    (first.andThen next).perform = (first.perform >>= fun _ => next.perform : ScenarioM ρ Unit) := by
  induction first with
  | finished => rfl
  | gaveUp f => rfl
  | helper rest ih => exact ih
  | begin scenario rest ih => simp only [andThen, perform, ih, bind_assoc]
  | error message rest ih => simp only [andThen, perform, ih, bind_assoc]
  | success message rest ih => simp only [andThen, perform, ih, bind_assoc]
  | fatal message rest ih => simp only [andThen, perform, ih, bind_assoc]
  | failNow rest ih => simp only [andThen, perform, ih, bind_assoc]

/-- A success is kept as one, or as a failure after an error. -/
theorem perform_success (message : String) (rest : Reporting) (b : Bench Recorder) :
    (success message rest).perform b = rest.perform
      { b with
        reporter := b.reporter.record (if b.reporter.failed then .failure else .success)
          (if b.reporter.failed then message ++ afterErrors else message) } := by
  show rest.perform { b with reporter := if b.reporter.failed then _ else _ } = _
  cases b.reporter.failed <;> rfl

end Reporting

/-! ## Scripts -/

namespace ReportStep

/-- A fatal failure that ends the function that reports it. -/
def stopping (message : String) : Reporting := .fatal message .gaveUp

mutual

/-- What a step of a script reports. -/
def reporting : ReportStep → Reporting
  | begin name => .begin name .finished
  | helper => .helper .finished
  | error message => .error message .finished
  | success message => .success message .finished
  | fatal message => stopping message
  | failNow => .failNow .gaveUp
  | giveUp message => .gaveUp ⟨message⟩
  | check condition message => if condition then .finished else .error message .finished
  | require condition message => if condition then .finished else stopping message
  | checkEq actual expected what =>
    if actual = expected then .finished
    else .error (ScenarioM.mismatchMessage what actual.describe expected.describe) .finished
  | requireOk none _ => .finished
  | requireOk (some e) what => stopping (what ++ ": " ++ e)
  | scenario steps => reportingAll steps

/-- What a script reports. -/
def reportingAll : List ReportStep → Reporting
  | [] => .finished
  | s :: rest => s.reporting.andThen (reportingAll rest)

end

variable {ρ : Type} [Reporter ρ]

mutual

/-- **A step of a script only reports.** -/
theorem perform_reporting (s : ReportStep) : s.reporting.perform = (s.run : ScenarioM ρ Unit) := by
  cases s with
  | begin name => exact bind_pure _
  | helper => rfl
  | error message => exact bind_pure _
  | success message => exact bind_pure _
  | fatal message => rfl
  | failNow => rfl
  | giveUp message => rfl
  | check condition message =>
      cases condition with
      | true => rfl
      | false => exact bind_pure _
  | require condition message =>
      cases condition with
      | true => rfl
      | false => rfl
  | checkEq actual expected what =>
      by_cases heq : actual = expected
      · simp only [reporting, run, ScenarioM.checkEq, if_pos heq]
        rfl
      · simp only [reporting, run, ScenarioM.checkEq, if_neg heq]
        exact bind_pure _
  | requireOk result what =>
      cases result with
      | none => rfl
      | some e => rfl
  | scenario steps => exact perform_reportingAll steps

/-- **A script only reports.** -/
theorem perform_reportingAll (steps : List ReportStep) :
    (reportingAll steps).perform = (runAll steps : ScenarioM ρ Unit) := by
  cases steps with
  | nil => rfl
  | cons s rest =>
      rw [reportingAll, Reporting.perform_andThen, perform_reporting s, perform_reportingAll rest]
      rfl

end

end ReportStep

end RpcConformance
