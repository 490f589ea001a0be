import RpcConformance.Scenario.Streams

/-!
# Scenarios with methods that always fail

Their errors have a message outside ASCII and one typed detail.
-/

namespace RpcConformance.Scenarios

open ScenarioM

variable {ρ : Type} [Reporter ρ]

/-- How many responses come before a failure that follows responses. -/
def leadingResponses : Nat := 4

/-- Checks a detail. -/
def checkDetail (a : AnyValue) : ScenarioM ρ Unit := do
  checkEq Text.quoted a.typeUrl ErrorDetail.typeUrl "error detail type"
  match a.errorDetail with
  | .ok detail => checkEq ErrorDetail.describe detail Agreed.errorDetail "error detail"
  | .error e => error ("couldn't decode error detail: " ++ e.message)

/-- Checks the status of a method that always fails. -/
def checkDetailedFailure (s : Status) : ScenarioM ρ Unit := do
  checkCode s.code .resourceExhausted "status code"
  checkEq Text.quoted s.message Agreed.failureMessage "status message"
  match s.errorDetails with
  | .error e => error ("couldn't decode error details: " ++ e.message)
  | .ok details =>
    checkEq Decimal.text details.length 1 "number of error details"
    match details with
    | a :: _ => checkDetail a
    | [] => pure ()

def failWithNonAsciiError (c : Context) : ScenarioM ρ Unit := do
  let o ← plainOptions
  let r ← unary c.client .test (.failUnaryCall { responseType := Payload.compressable }) o
  match r with
  | .ok _ => error "FailUnaryCall succeeded"
  | .error s => checkDetailedFailure s
  success "successful fail call with non-ASCII error"

/-- Receives up to the failure of the stream. -/
def receiveFailure : Nat → ServerStream → ScenarioM ρ Unit
  | 0, _ => pure ()
  | fuel + 1, st => do
    let (r, st) ← receiveServer st
    match r with
    | .ok (some _) => receiveFailure fuel st
    | .error s => checkDetailedFailure s
    | .ok none => error "FailStreamingOutputCall ended without an error"

/-- The failure may come before or after the headers. -/
def failServerStreamingWithNonAsciiError (c : Context) : ScenarioM ρ Unit := do
  let request ← requireOk PayloadError.message (outputRequest [] none) "couldn't build request"
  let o ← plainOptions
  let r ← serverStreaming c.client .test (.failStreamingOutputCall request) o
  match r with
  | .error s => checkDetailedFailure s
  | .ok st =>
    let bound ← messageBound
    receiveFailure (bound + 1) st
  success "successful fail server streaming with non-ASCII error"

/-- Receives a response of each size. -/
def receiveEachServer (index : Nat) (st : ServerStream) :
    List Int → ScenarioM ρ ServerStream
  | [] => pure st
  | size :: rest => do
    let (r, st) ← receiveServer st
    let response ← expectResponse r ("response " ++ Decimal.text index)
    checkLength response.payload size ("length of response " ++ Decimal.text index)
    receiveEachServer (index + 1) st rest

/-- The failure comes after the responses. -/
def failServerStreamingAfterResponse (c : Context) : ScenarioM ρ Unit := do
  let sizes := c.sizes.response.toList.take leadingResponses
  let request ← requireOk PayloadError.message (outputRequest sizes none)
    "couldn't build request"
  let o ← plainOptions
  let r ← serverStreaming c.client .test (.failStreamingOutputCall request) o
  let st ← requireOk Status.describe r "couldn't open FailStreamingOutputCall"
  let st ← receiveEachServer 0 st sizes
  let (r, _) ← receiveServer st
  match r with
  | .error s => checkDetailedFailure s
  | other => error ("expected the call to fail, got " ++ describeReceived other)
  success "successful fail server streaming after response"

end RpcConformance.Scenarios
