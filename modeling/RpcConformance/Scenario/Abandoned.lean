import RpcConformance.Scenario.Calls

/-!
# Scenarios that give calls up
-/

namespace RpcConformance.Scenarios

open ScenarioM

variable {ρ : Type} [Reporter ρ]

def answerLimit : Duration := .ofSecs 1
def unansweredPayload : Int := 27182
def openingResponse : Int := 31415
def openingRequest : Int := 27182

/-- Waits for a response that no request asks for, until the deadline. -/
def awaitDeadline (st : BidiStream) : ScenarioM ρ Unit := do
  let (r, _) ← receiveBidi st
  match r with
  | .error s => checkCode s.code .deadlineExceeded "status of the sleeping call"
  | other => error ("expected DEADLINE_EXCEEDED, got " ++ describeReceived other)
  success "successful timeout on sleeping server"

/-- A call whose server sends nothing ends at its deadline. -/
def timeoutOnSleepingServer (c : Context) : ScenarioM ρ Unit := do
  let t ← now
  let scope ← newScope (some (t.later answerLimit))
  let r ← bidiStreaming c.client .fullDuplexCall ⟨.empty, scope⟩
  match r with
  | .error s =>
    if s.code = .deadlineExceeded then success "deadline expired while opening the stream"
    else fatal ("couldn't open FullDuplexCall: " ++ s.describe)
  | .ok st =>
    let request ← requireOk PayloadError.message
      (outputRequest [] (some unansweredPayload)) "couldn't build request"
    let (r, st) ← sendBidi st request
    match r with
    | .error .endOfStream => success "deadline expired before the request was sent"
    | .error e => fatal ("couldn't send request: " ++ e.message)
    | .ok () => awaitDeadline st

/-- A call that is cancelled right after it was opened. -/
def cancelAfterBegin (c : Context) : ScenarioM ρ Unit := do
  let scope ← newScope none
  let r ← onSession (c.client.clientStreaming ⟨.empty, scope⟩)
  let st ← requireOk Status.describe r "couldn't open StreamingInputCall"
  onSession fun s => ((), s.cancel scope)
  let r ← await st.closeAndReceive
  match r with
  | .ok _ => error "StreamingInputCall succeeded after cancellation"
  | .error s => checkCode s.code .cancelled "status after cancel"
  success "successful cancel after begin"

/-- A call that is cancelled after its first response. -/
def cancelAfterFirstResponse (c : Context) : ScenarioM ρ Unit := do
  let scope ← newScope none
  let r ← bidiStreaming c.client .fullDuplexCall ⟨.empty, scope⟩
  let st ← requireOk Status.describe r "couldn't open FullDuplexCall"
  let request ← requireOk PayloadError.message
    (outputRequest [openingResponse] (some openingRequest)) "couldn't build request"
  let (r, st) ← sendBidi st request
  requireOk SendError.message r "couldn't send request"
  let (r, st) ← receiveBidi st
  let _ ← expectResponse r "a first response"
  onSession fun s => ((), s.cancel scope)
  let (r, _) ← receiveBidi st
  match r with
  | .error s => checkCode s.code .cancelled "status after cancel"
  | other => error ("expected CANCELLED, got " ++ describeReceived other)
  success "successful cancel after first response"

end RpcConformance.Scenarios
