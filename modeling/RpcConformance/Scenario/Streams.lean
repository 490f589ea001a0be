import RpcConformance.Scenario.Calls

/-!
# Scenarios with streams
-/

namespace RpcConformance.Scenarios

open ScenarioM

variable {ρ : Type} [Reporter ρ]

/-- Sends a payload of each size, and sums the sizes up. -/
def sendSizes (st : ClientStream) (sum : Int) : List Int → ScenarioM ρ (ClientStream × Int)
  | [] => pure (st, sum)
  | size :: rest => do
    let payload ← requireOk PayloadError.message (Payload.zeros Payload.compressable size)
      "couldn't build payload"
    let (r, st) ← awaitWith (st.send (.input ⟨some payload⟩))
    requireOk SendError.message r
      ("couldn't send a " ++ Decimal.signedText size ++ " byte payload")
    let sum ← checked (addInt32 sum size)
    sendSizes st sum rest

/-- The server sums up what it is sent. -/
def clientStreaming (c : Context) : ScenarioM ρ Unit := do
  let o ← plainOptions
  let r ← onSession (c.client.clientStreaming o)
  let st ← requireOk Status.describe r "couldn't open StreamingInputCall"
  let (st, sum) ← sendSizes st 0 c.sizes.request.toList
  let r ← await st.closeAndReceive
  let response ← requireOk Status.describe r "StreamingInputCall failed"
  checkEq Decimal.signedText response.message.toAggregate sum "aggregated payload size"
  success "successful client streaming"

/-- Receives responses up to the end of the stream, and checks the length of each that has an
expected size. Gives the number of responses; a failure is fatal. The fuel bounds the number
of responses. -/
def receiveSizes (expected : List Int) :
    Nat → Nat → ServerStream → ScenarioM ρ Nat
  | 0, received, _ => pure received
  | fuel + 1, received, st => do
    let (r, st) ← receiveServer st
    match r with
    | .ok none => pure received
    | .error s =>
      fatal ("StreamingOutputCall failed after " ++ Decimal.text received ++ " responses: "
        ++ s.describe)
    | .ok (some response) =>
      match expected[received]? with
      | some size =>
        checkLength response.payload size ("length of response " ++ Decimal.text received)
      | none => pure ()
      receiveSizes expected fuel (received + 1) st

/-- A bound on the messages that the calls of a session can still give. -/
def messageBound : ScenarioM ρ Nat := fun b => (.ok b.session.messageBound, b)

/-- The server sends a response of each size. -/
def serverStreamingSizes (c : Context) : ScenarioM ρ Unit := do
  let expected := c.sizes.response.toList
  let request ← requireOk PayloadError.message (outputRequest expected none)
    "couldn't build request"
  let o ← plainOptions
  let r ← serverStreaming c.client .test (.streamingOutputCall request) o
  let st ← requireOk Status.describe r "couldn't open StreamingOutputCall"
  let bound ← messageBound
  let received ← receiveSizes expected (bound + 1) 0 st
  checkEq Decimal.text received expected.length "number of responses"
  success "successful server streaming"

/-- Sends a request and waits for its response, for each pair of sizes in turn. -/
def pingPongLoop (index : Nat) (st : BidiStream) :
    List (Int × Int) → ScenarioM ρ BidiStream
  | [] => pure st
  | (requestSize, responseSize) :: rest => do
    let request ← requireOk PayloadError.message (outputRequest [responseSize] (some requestSize))
      ("couldn't build request " ++ Decimal.text index)
    let (r, st) ← sendBidi st request
    requireOk SendError.message r ("couldn't send request " ++ Decimal.text index)
    let (r, st) ← receiveBidi st
    let response ← expectResponse r ("response " ++ Decimal.text index)
    checkLength response.payload responseSize ("length of response " ++ Decimal.text index)
    pingPongLoop (index + 1) st rest

/-- Requests and responses take turns. -/
def pingPong (c : Context) : ScenarioM ρ Unit := do
  let o ← plainOptions
  let r ← bidiStreaming c.client .fullDuplexCall o
  let st ← requireOk Status.describe r "couldn't open FullDuplexCall"
  let st ← pingPongLoop 0 st (c.sizes.request.toList.zip c.sizes.response.toList)
  let st ← closeSend st
  let (r, _) ← receiveBidi st
  checkEnd r
  success "successful ping pong"

/-- A stream without requests has no responses. -/
def emptyStream (c : Context) : ScenarioM ρ Unit := do
  let o ← plainOptions
  let r ← bidiStreaming c.client .fullDuplexCall o
  let st ← requireOk Status.describe r "couldn't open FullDuplexCall"
  let st ← closeSend st
  let (r, _) ← receiveBidi st
  checkEnd r
  success "successful empty stream"

/-- Sends a request for each pair of sizes. -/
def sendPairs (index : Nat) (st : BidiStream) : List (Int × Int) → ScenarioM ρ BidiStream
  | [] => pure st
  | (requestSize, responseSize) :: rest => do
    let request ← requireOk PayloadError.message (outputRequest [responseSize] (some requestSize))
      ("couldn't build request " ++ Decimal.text index)
    let (r, st) ← sendBidi st request
    requireOk SendError.message r ("couldn't send request " ++ Decimal.text index)
    sendPairs (index + 1) st rest

/-- Receives a response of each size. -/
def receiveEach (index : Nat) (st : BidiStream) : List Int → ScenarioM ρ BidiStream
  | [] => pure st
  | size :: rest => do
    let (r, st) ← receiveBidi st
    let response ← expectResponse r ("response " ++ Decimal.text index)
    checkLength response.payload size ("length of response " ++ Decimal.text index)
    receiveEach (index + 1) st rest

/-- All requests are sent before the first response is received. -/
def halfDuplex (c : Context) : ScenarioM ρ Unit := do
  let o ← plainOptions
  let r ← bidiStreaming c.client .halfDuplexCall o
  let st ← requireOk Status.describe r "couldn't open HalfDuplexCall"
  let st ← sendPairs 0 st (c.sizes.request.toList.zip c.sizes.response.toList)
  let st ← closeSend st
  let st ← receiveEach 0 st c.sizes.response.toList
  let (r, _) ← receiveBidi st
  checkEnd r
  success "successful half duplex"

end RpcConformance.Scenarios
