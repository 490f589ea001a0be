import RpcConformance.Service.Duplex
import RpcConformance.Service.Echo
import RpcConformance.Word

/-!
# The test service

What each method of the reference server does with a call. A method with a single response
answers or refuses at once, or after the end of its input; a method with many responses opens
a stream of them, or refuses the call before it is opened.
-/

namespace RpcConformance

/-- A call as it begins: the method, with its request where there is exactly one. -/
inductive Invocation
  | emptyCall
  | unaryCall (r : SimpleRequest)
  | failUnaryCall (r : SimpleRequest)
  | cacheableUnaryCall (r : SimpleRequest)
  | unimplementedCall
  | streamingOutputCall (r : StreamingOutputRequest)
  | failStreamingOutputCall (r : StreamingOutputRequest)
  | unimplementedStreamingOutputCall
  | streamingInputCall
  | fullDuplexCall
  | halfDuplexCall

/-- The name of the called method. -/
def Invocation.method : Invocation → String
  | emptyCall => "EmptyCall"
  | unaryCall _ => "UnaryCall"
  | failUnaryCall _ => "FailUnaryCall"
  | cacheableUnaryCall _ => "CacheableUnaryCall"
  | unimplementedCall => "UnimplementedCall"
  | streamingOutputCall _ => "StreamingOutputCall"
  | failStreamingOutputCall _ => "FailStreamingOutputCall"
  | unimplementedStreamingOutputCall => "UnimplementedStreamingOutputCall"
  | streamingInputCall => "StreamingInputCall"
  | fullDuplexCall => "FullDuplexCall"
  | halfDuplexCall => "HalfDuplexCall"

/-- The bytes of the only request of a call. -/
def Invocation.requestLength : Invocation → Nat
  | .unaryCall r => r.encodedLength
  | .failUnaryCall r => r.encodedLength
  | .cacheableUnaryCall r => r.encodedLength
  | .streamingOutputCall r => r.encodedLength
  | .failStreamingOutputCall r => r.encodedLength
  | _ => 0

/-- A stream of responses of any of the methods that have one. -/
inductive ResponseStream
  | output (s : OutputStream)
  | fullDuplex (d : FullDuplex)
  | halfDuplex (d : HalfDuplex)

namespace ResponseStream

/-- One poll for the next item. -/
def turn (s : ResponseStream) (w : Seat StreamingOutputRequest) :
    Turn ResponseStream (Item × ResponseStream) × Seat StreamingOutputRequest :=
  match s with
  | output s =>
    match s.turn w.moment with
    | .waiting s => (.waiting (output s), w)
    | .ready (item, s) => (.ready (item, output s), w)
  | fullDuplex d =>
    match d.turn w with
    | (.waiting d, w) => (.waiting (fullDuplex d), w)
    | (.ready (item, d), w) => (.ready (item, fullDuplex d), w)
  | halfDuplex d =>
    match d.turn w with
    | (.waiting d, w) => (.waiting (halfDuplex d), w)
    | (.ready (item, d), w) => (.ready (item, halfDuplex d), w)

def alarm (s : ResponseStream) (w : Seat StreamingOutputRequest) : Option Instant :=
  match s with
  | output s => s.alarm w.moment
  | fullDuplex d => d.alarm w
  | halfDuplex d => d.alarm w

/-- Waits for the next item. -/
def next : Operation (Seat StreamingOutputRequest) ResponseStream (Item × ResponseStream) :=
  ⟨turn, alarm⟩

end ResponseStream

/-- The reference server. -/
structure ReferenceServer where
  serverId : String
  hostname : String
deriving DecidableEq

/-- How a method goes on once it has been called. -/
inductive Handling
  | answered (r : Response Reply)
  | refused (s : Status)
  /-- It opens a stream of responses. -/
  | streaming (r : Response ResponseStream)
  /-- It sums up its input before it answers. -/
  | summing (scope : Scope)

namespace ReferenceServer

/-- A server whose host name comes from its environment, and is `localhost` without one. -/
def new (serverId : String) (hostname : Option String) : ReferenceServer :=
  ⟨serverId, hostname.getD "localhost"⟩

/-- The status of the methods that always fail. -/
def detailedFailure : Status :=
  .withDetail .resourceExhausted Agreed.failureMessage Agreed.errorDetail

/-- The response to a simple request. -/
def answerSimple (server : ReferenceServer) (r : SimpleRequest) : Except Status SimpleResponse :=
  match Payload.zeros r.responseType r.responseSize with
  | .error e => .error e.toStatus
  | .ok payload =>
    .ok (if r.fillServerId then ⟨some payload, server.serverId, server.hostname⟩
      else ⟨some payload, "", ""⟩)

/-- Echoes metadata on every exit; a requested status comes before everything else. -/
def unaryCall (server : ReferenceServer) (md : Metadata) (r : SimpleRequest) : Handling :=
  let echo := Echo.ofMetadata md
  match requestedStatus? r.responseStatus with
  | some st => .refused (echo.fail st)
  | none =>
    match server.answerSimple r with
    | .error st => .refused (echo.fail st)
    | .ok response => .answered (echo.respond (.simple response))

/-- Refuses what it could not answer in full before it opens the stream. -/
def streamingOutputCall (md : Metadata) (now : Instant) (token : Token)
    (r : StreamingOutputRequest) : Handling :=
  let echo := Echo.ofMetadata md
  match admitRequest r.responseType r.parameters with
  | .error st => .refused (echo.fail st)
  | .ok () =>
    .streaming (echo.respond
      (.output (OutputStream.forRequest (Scope.ofMetadata md now token) r)))

/-- Sends the responses that were asked for, and then fails. -/
def failStreamingOutputCall (md : Metadata) (now : Instant) (token : Token)
    (r : StreamingOutputRequest) : Handling :=
  match admitRequest r.responseType r.parameters with
  | .error st => .refused st
  | .ok () =>
    .streaming ⟨.output (OutputStream.start (Scope.ofMetadata md now token) r.responseType
      r.parameters (some detailedFailure)), .empty, none⟩

/-- The bytes of a further request, added to those before it. -/
def addLength (total : Nat) (r : StreamingInputRequest) : Nat := total + payloadLength r.payload

/-- The operation that sums up the input of a call. -/
def sum (scope : Scope) :
    Operation (Seat StreamingInputRequest) (Collected Nat) (Except Status Nat) :=
  Collected.operation scope addLength

/-- The answer to a whole input; a total of more than 31 bits is refused. -/
def aggregate (total : Nat) : Except Status Reply :=
  if total < int32Limit then .ok (.aggregate total)
  else .error (.invalidArgument ("aggregated size " ++ Decimal.text total ++ " overflows"))

/-- Begins a call. The token is that of the scope of the call. -/
def handle (server : ReferenceServer) (call : Invocation) (md : Metadata) (now : Instant)
    (token : Token) : Handling :=
  let scope := Scope.ofMetadata md now token
  match call with
  | .emptyCall => .answered ⟨.empty, .empty, none⟩
  | .unaryCall r => server.unaryCall md r
  | .cacheableUnaryCall r => server.unaryCall md r
  | .failUnaryCall _ => .refused detailedFailure
  | .unimplementedCall => .refused (.unimplemented "UnimplementedCall is not implemented")
  | .unimplementedStreamingOutputCall =>
    .refused (.unimplemented "UnimplementedStreamingOutputCall is not implemented")
  | .streamingOutputCall r => streamingOutputCall md now token r
  | .failStreamingOutputCall r => failStreamingOutputCall md now token r
  | .streamingInputCall => .summing scope
  | .fullDuplexCall => .streaming ((Echo.ofMetadata md).respond (.fullDuplex (.start scope)))
  | .halfDuplexCall => .streaming ((Echo.ofMetadata md).respond (.halfDuplex (.start scope)))

end ReferenceServer

end RpcConformance
