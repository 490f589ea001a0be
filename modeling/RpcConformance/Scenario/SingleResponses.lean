import RpcConformance.Scenario.Calls

/-!
# Scenarios with single responses
-/

namespace RpcConformance.Scenarios

open ScenarioM

variable {ρ : Type} [Reporter ρ]

/-- An empty request gets an empty response. -/
def emptyUnary (c : Context) : ScenarioM ρ Unit := do
  let o ← plainOptions
  let r ← unary c.client .test .emptyCall o
  let _ ← requireOk Status.describe r "EmptyCall failed"
  success "successful empty unary"

/-- A large request for a large response. -/
def largeRequestOf (sizes : Sizes) : Except PayloadError SimpleRequest :=
  (Payload.zeros Payload.compressable sizes.largeRequest).map fun p =>
    { responseType := Payload.compressable, responseSize := sizes.largeResponse,
      payload := some p }

/-- A large request gets a response of the type and size that it asks for. -/
def largeUnary (c : Context) : ScenarioM ρ Unit := do
  let request ← requireOk PayloadError.message (largeRequestOf c.sizes)
    "couldn't build the request payload"
  let o ← plainOptions
  let r ← unary c.client .test (.unaryCall request) o
  let response ← requireOk Status.describe r "UnaryCall failed"
  let payload := response.message.toSimple.payload
  checkEq Decimal.signedText ((payload.map (·.kind)).getD 0) Payload.compressable
    "response payload type"
  checkLength payload c.sizes.largeResponse "response payload length"
  success "successful large unary"

/-- A small request that asks for the server's name. -/
def smallRequest (p : Payload) : SimpleRequest :=
  { responseType := Payload.compressable, responseSize := 1, payload := some p,
    fillServerId := true }

/-- The cacheable method answers like the plain one. -/
def cacheableUnary (c : Context) : ScenarioM ρ Unit := do
  let p ← requireOk PayloadError.message (Payload.zeros Payload.compressable 1)
    "couldn't build payload"
  let o ← plainOptions
  let r ← unary c.client .test (.cacheableUnaryCall (smallRequest p)) o
  let cacheable ← requireOk Status.describe r "CacheableUnaryCall failed"
  let o ← plainOptions
  let r ← unary c.client .test (.unaryCall (smallRequest p)) o
  let plain ← requireOk Status.describe r "UnaryCall failed"
  checkEq SimpleResponse.describe cacheable.message.toSimple plain.message.toSimple
    "CacheableUnaryCall response"
  success "successful cacheable unary"

/-- How many calls must reach the same server. -/
def callsToOneServer : Nat := 100

/-- Makes calls from number `call` on; `first` is the server that answered the first one. -/
def pickFirstLoop (c : Context) (request : SimpleRequest) :
    Nat → Nat → Option String → ScenarioM ρ Unit
  | 0, _, _ => pure ()
  | left + 1, call, first => do
    let o ← plainOptions
    let r ← unary c.client .test (.unaryCall request) o
    let response ← requireOk Status.describe r ("UnaryCall " ++ Decimal.text call ++ " failed")
    let received := response.message.toSimple.serverId
    match first with
    | none =>
      require (received ≠ "")
        ("UnaryCall " ++ Decimal.text call ++ " returned an empty server id")
      pickFirstLoop c request left (call + 1) (some received)
    | some first =>
      checkEq Text.quoted received first ("server id of UnaryCall " ++ Decimal.text call)
      pickFirstLoop c request left (call + 1) (some first)

/-- All calls reach the same server. -/
def pickFirst (c : Context) : ScenarioM ρ Unit := do
  let p ← requireOk PayloadError.message (Payload.zeros Payload.compressable 1)
    "couldn't build payload"
  pickFirstLoop c (smallRequest p) callsToOneServer 0 none
  success ("all " ++ Decimal.text callsToOneServer ++ " calls reached the same server")

/-- A client that connects when it makes its first call; the address must be one. -/
def lazyClient (n : Network) (c : Target) : Except String Client :=
  if c.dialable then .ok ⟨c, n.reaches c⟩ else .error c.invalidMessage

/-- A call to a host without a server fails as unavailable. -/
def unresolvableHost (c : Context) : ScenarioM ρ Unit := do
  let client ← requireOk id (lazyClient c.network c.unresolvable)
    ("couldn't create a client for " ++ c.unresolvable.uri)
  let o ← plainOptions
  let r ← unary client .test .emptyCall o
  match r with
  | .ok _ => error ("EmptyCall to " ++ c.unresolvable.uri ++ " succeeded")
  | .error s => checkCode s.code .unavailable "EmptyCall to an unresolvable host"
  success "unresolvable host failed with UNAVAILABLE"

end RpcConformance.Scenarios
