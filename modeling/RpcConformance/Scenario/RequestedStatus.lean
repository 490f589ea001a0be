import RpcConformance.Scenario.Streams

/-!
# Scenarios with requested statuses
-/

namespace RpcConformance.Scenarios

open ScenarioM

variable {ρ : Type} [Reporter ρ]

/-- A request for an unknown status with a message. -/
def unknownStatus (message : String) : EchoStatus := ⟨Code.unknown.number, message⟩

/-- Checks a status against the one that was asked for. -/
def checkRequested (s : Status) (message : String) : ScenarioM ρ Unit := do
  checkCode s.code .unknown "status code"
  checkEq Text.quoted s.message message "status message"

/-- A single call ends with the status that it asks for. -/
def requestStatus (c : Context) (message : String) : ScenarioM ρ Unit := do
  let o ← plainOptions
  let r ← unary c.client .test (.unaryCall
    { responseType := Payload.compressable, responseSize := 1,
      responseStatus := some (unknownStatus message) }) o
  match r with
  | .ok _ => error "UnaryCall succeeded despite the requested status"
  | .error s => checkRequested s message

def statusCodeAndMessageUnary (c : Context) : ScenarioM ρ Unit := do
  requestStatus c Agreed.statusMessage
  success "successful status code and message unary"

/-- Receives up to the end of the stream, which must be the requested status. -/
def receiveStatus : Nat → BidiStream → ScenarioM ρ Unit
  | 0, _ => pure ()
  | fuel + 1, st => do
    let (r, st) ← receiveBidi st
    match r with
    | .ok (some _) => receiveStatus fuel st
    | .error s => checkRequested s Agreed.statusMessage
    | other => error ("expected the requested status, got " ++ describeReceived other)

/-- A stream ends with the status that its request asks for, perhaps after some responses. -/
def statusCodeAndMessageFullDuplex (c : Context) : ScenarioM ρ Unit := do
  let o ← plainOptions
  let r ← bidiStreaming c.client .fullDuplexCall o
  let st ← requireOk Status.describe r "couldn't open FullDuplexCall"
  let request ← requireOk PayloadError.message (outputRequest [1] none) "couldn't build request"
  let (r, st) ← sendBidi st
    { request with responseStatus := some (unknownStatus Agreed.statusMessage) }
  requireOk SendError.message r "couldn't send request"
  let st ← closeSend st
  let bound ← messageBound
  receiveStatus (bound + 1) st
  success "successful status code and message full duplex"

def specialStatusMessage (c : Context) : ScenarioM ρ Unit := do
  requestStatus c Agreed.specialStatusMessage
  success "successful special status message"

end RpcConformance.Scenarios
