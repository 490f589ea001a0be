import RpcConformance.Reporter.Basic

/-!
# The reporter in memory

It keeps every report as an event and never ends the program.
-/

namespace RpcConformance

inductive ReportKind
  | error
  | fatal
  | success
  /-- A success after an error, or an end without a message. -/
  | failure
deriving DecidableEq

namespace ReportKind

def name : ReportKind → String
  | error => "Error"
  | fatal => "Fatal"
  | success => "Success"
  | failure => "Failure"

end ReportKind

/-- A report, with the scenario that made it. -/
structure ReportEvent where
  scenario : String
  kind : ReportKind
  message : String
deriving DecidableEq

/-- Reports in the order in which they were made. -/
structure Recorder where
  scenario : String := ""
  failed : Bool := false
  events : List ReportEvent := []
deriving DecidableEq

namespace Recorder

/-- Keeps an event; any but a success is a failure of the scenario. -/
def record (r : Recorder) (kind : ReportKind) (message : String) : Recorder :=
  { r with
    failed := r.failed || kind ≠ .success
    events := r.events ++ [⟨r.scenario, kind, message⟩] }

/-- The events that are no success. -/
def failures (r : Recorder) : List ReportEvent :=
  r.events.filter (·.kind ≠ .success)

instance : Reporter Recorder where
  begin name r := { r with scenario := name, failed := false }
  error message r := r.record .error message
  fatal message r := .returned ⟨message⟩ (r.record .fatal message)
  success message r :=
    .returned () (if r.failed then r.record .failure (message ++ afterErrors)
      else r.record .success message)
  failNow r := .returned ⟨r.scenario ++ " failed"⟩ (r.record .failure "failed")
  failed r := r.failed

end Recorder

end RpcConformance
