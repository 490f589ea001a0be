import RpcConformance.Reporter.Basic

/-!
# The reporter on the console

It writes one line for each report, to the log or to standard output. A fatal report, an end
without a message, and a success after an error end the program with exit code 1.
-/

namespace RpcConformance

inductive LogLevel
  | info
  | error
deriving DecidableEq

namespace LogLevel

def name : LogLevel → String
  | info => "INFO"
  | error => "ERROR"

end LogLevel

/-- Where lines go. -/
inductive Sink
  | log
  | stdout
deriving DecidableEq

/-- A line that has been written. -/
inductive OutputLine
  | log (level : LogLevel) (message : String)
  | stdout (text : String)
deriving DecidableEq

/-- The line reporter with what it has written. -/
structure LineReporter where
  sink : Sink
  scenario : String := ""
  failed : Bool := false
  lines : List OutputLine := []
deriving DecidableEq

namespace LineReporter

/-- How a line begins. -/
inductive Label
  | error
  | fail
  | success
deriving DecidableEq

def Label.text : Label → String
  | .error => "ERROR"
  | .fail => "FAIL"
  | .success => "SUCCESS"

def Label.level : Label → LogLevel
  | .success => .info
  | _ => .error

/-- Writes a line. -/
def write (r : LineReporter) (label : Label) (message : String) : LineReporter :=
  let text := label.text ++ ": " ++ r.scenario ++ ": " ++ message
  let line := match r.sink with
    | .log => OutputLine.log label.level text
    | .stdout => OutputLine.stdout text
  { r with lines := r.lines ++ [line] }

/-- The scenario has failed. -/
def markFailed (r : LineReporter) : LineReporter := { r with failed := true }

instance : Reporter LineReporter where
  begin name r := { r with scenario := name, failed := false }
  error message r := r.markFailed.write .error message
  fatal message r := .exited 1 (r.markFailed.write .fail message)
  success message r :=
    if r.failed then .exited 1 (r.write .fail (message ++ afterErrors))
    else .returned () (r.write .success message)
  failNow r := .exited 1 (r.markFailed.write .fail "failed")
  failed r := r.failed

end LineReporter

end RpcConformance
