/-!
# Reporters

A scenario reports what it finds: errors, after which it goes on, fatal failures, which end it,
and its success, which counts as a failure where an error came before. A reporter may end the
whole program at a report.
-/

namespace RpcConformance

/-- What ends a scenario early, with the message of the report. -/
structure Fatal where
  message : String
deriving DecidableEq

/-- What a report does: it returns, or it ends the program with an exit code. -/
inductive Reported (ρ α : Type)
  | returned (a : α) (r : ρ)
  | exited (code : Nat) (r : ρ)

/-- A sink of reports. -/
class Reporter (ρ : Type) where
  /-- Starts a scenario; the failures before it are forgotten. -/
  begin : String → ρ → ρ
  /-- Notes a failure after which the scenario goes on. -/
  error : String → ρ → ρ
  /-- Notes a failure that ends the scenario. -/
  fatal : String → ρ → Reported ρ Fatal
  /-- Notes the end of the scenario, which is a failure after an error. -/
  success : String → ρ → Reported ρ Unit
  /-- Ends the scenario as failed, without a message of its own. -/
  failNow : ρ → Reported ρ Fatal
  /-- A failure was reported since the scenario started. -/
  failed : ρ → Bool

/-- What is added to the message of a success that comes after an error. -/
def afterErrors : String := " (after earlier errors)"

end RpcConformance
