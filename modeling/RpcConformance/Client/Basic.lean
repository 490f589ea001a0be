import RpcConformance.Session
import RpcConformance.Target

/-!
# The client

Each call has options: metadata, and a scope that bounds every operation of the call. A call
with a single response gives the response with the headers and trailers apart. A stream keeps
the outcome that was first seen, so that every later look sees the same one; once its scope has
been triggered it is given up.
-/

namespace RpcConformance

/-- Metadata and scope of a call. -/
structure CallOptions where
  metadata : Metadata := .empty
  scope : Scope

namespace CallOptions

/-- Adds an ASCII value after those of its key. -/
def withAscii (o : CallOptions) (key value : String) : Except AsciiValueError CallOptions :=
  (HeaderValue.ofAscii value).map fun v => { o with metadata := o.metadata.append key v }

/-- Adds a binary value after those of its key. -/
def withBinary (o : CallOptions) (key : String) (value : List UInt8) : CallOptions :=
  { o with metadata := o.metadata.append key (.ofBinary value) }

def withScope (o : CallOptions) (scope : Scope) : CallOptions := { o with scope := scope }

/-- How a call fails whose timeout cannot be written as a header. -/
def unwritableTimeout : Status := .internal "couldn't encode grpc-timeout"

/-- The metadata that are sent: with a deadline, the time that is left until then takes the
place of any timeout among the options. -/
def request (o : CallOptions) (m : Moment) : Except Status Metadata :=
  match o.scope.remaining m with
  | some left =>
    match HeaderValue.ofAscii (Timeout.encode left) with
    | .ok timeout => .ok (o.metadata.insert Timeout.header timeout)
    | .error _ => .error unwritableTimeout
  | none => .ok o.metadata

end CallOptions

/-- Why a request was not sent. -/
inductive SendError
  /-- The call has ended, or its scope has been triggered. -/
  | endOfStream
  /-- The sending side has been closed. -/
  | closed
deriving DecidableEq

namespace SendError

def message : SendError → String
  | endOfStream => "end of stream"
  | closed => "send side already closed"

end SendError

/-- A single response, with headers and trailers apart. -/
structure SingleResponse where
  message : Reply
  headers : Metadata
  trailers : Metadata

/-! ## Single responses -/

/-- What has been seen of a call that should have one response. -/
inductive Single
  | unopened
  | opened (headers : Metadata)
  | received (headers : Metadata) (message : Reply)

namespace Single

/-- The result of a call that ends without a response. -/
def missing : Status := .internal "call ended without a response message"

/-- The result of a call with a second response. -/
def doubled : Status := .internal "call returned more than one response message"

/-- The next state, or the result of the call. -/
def step : Single → Event → Turn Single (Except Status SingleResponse)
  | unopened, .opened headers => .waiting (opened headers)
  | unopened, .ended s => .ready (.error s)
  | unopened, .message _ => .waiting unopened
  | opened headers, .message r => .waiting (received headers r)
  | opened _, .ended s => .ready (.error (if s.code = .ok then missing else s))
  | opened headers, .opened _ => .waiting (opened headers)
  | received _ _, .message _ => .ready (.error doubled)
  | received headers r, .ended s =>
    .ready (if s.code = .ok then .ok ⟨r, headers, s.metadata⟩ else .error s)
  | received headers r, .opened _ => .waiting (received headers r)

/-- Goes through events up to the result. -/
def absorb : Single → List Event → Turn Single (Except Status SingleResponse)
  | st, [] => .waiting st
  | st, e :: rest =>
    match step st e with
    | .ready r => .ready r
    | .waiting st => absorb st rest

/-- Goes through the events of a call that have come. -/
def takeAll (st : Single) (id : CallId) (s : Session) :
    Turn Single (Except Status SingleResponse) × Session :=
  match s.slot id with
  | .live c => (absorb st c.waiting, s.setSlot id (.live { c with waiting := [] }))
  | _ => (.waiting st, s)

end Single

/-- The states of a call with a single response. -/
inductive UnaryState
  | unsent (spec : CallSpec)
  | sent (id : CallId) (seen : Single)

/-- Begins a call and waits for its single response. -/
def unaryOperation : Operation Session UnaryState (Except Status SingleResponse) where
  turn st s :=
    match st with
    | .unsent spec =>
      let (id, s) := s.begin spec
      (.waiting (.sent id .unopened), s)
    | .sent id seen =>
      match seen.takeAll id s with
      | (.ready r, s) => (.ready r, s.abandon id)
      | (.waiting seen, s) => (.waiting (.sent id seen), s)
  alarm _ _ := none

/-- The states of a call that is being opened. -/
inductive OpenState
  | unsent (spec : CallSpec)
  | sent (id : CallId)

/-- Begins a call and waits for its headers. -/
def openOperation : Operation Session OpenState (Except Status (CallId × Metadata)) where
  turn st s :=
    match st with
    | .unsent spec =>
      let (id, s) := s.begin spec
      (.waiting (.sent id), s)
    | .sent id =>
      match s.take id with
      | some (.opened headers, s) => (.ready (.ok (id, headers)), s)
      | some (.ended status, s) => (.ready (.error status), s.abandon id)
      | _ => (.waiting (.sent id), s)
  alarm _ _ := none

/-! ## Streams of responses -/

/-- The state of a stream of responses. -/
inductive StreamState
  | live (id : CallId)
  | finished
  | failed (s : Status)

/-- The receiving side of a stream. -/
structure Responses where
  headers : Metadata
  /-- Empty until the end of the stream has been seen. -/
  trailers : Metadata
  state : StreamState

/-- What comes next on a live stream: a message, or the trailers at its end. -/
inductive Received
  | message (r : Reply)
  | finished (trailers : Metadata)

/-- Waits for what comes next on a stream. -/
def nextOperation (id : CallId) : Operation Session Unit (Except Status Received) where
  turn _ s :=
    match s.take id with
    | some (.message r, s) => (.ready (.ok (.message r)), s)
    | some (.ended status, s) =>
      (.ready (if status.code = .ok then .ok (.finished status.metadata) else .error status), s)
    | some (.opened _, s) => (.waiting (), s)
    | none => (.waiting (), s)
  alarm _ _ := none

namespace Responses

/-- A stream that has been opened. -/
def opened (id : CallId) (headers : Metadata) : Responses := ⟨headers, .empty, .live id⟩

/-- Gives the stream up with a status, which is its outcome from then on. -/
def fail (r : Responses) (st : Status) : Responses := { r with state := .failed st }

/-- Gives up the call of a live stream. -/
def drop (r : Responses) (s : Session) : Session :=
  match r.state with
  | .live id => s.abandon id
  | _ => s

/-- The next message, or nothing at the end of the stream. The scope is looked at once more
before the end is taken for one. -/
def receive (r : Responses) (scope : Scope) (s : Session) :
    Outcome (Except Status (Option Reply)) × Responses × Session :=
  match r.state with
  | .finished => (.answered (.ok none), r, s)
  | .failed st => (.answered (.error st), r, s)
  | .live id =>
    match s.run (scope.guard (nextOperation id)) (.fresh ()) with
    | (.unfinished, s) => (.unfinished, r, s)
    | (.answered (.ok (.message m)), s) => (.answered (.ok (some m)), r, s)
    | (.answered (.error st), s) => (.answered (.error st), r.fail st, s)
    | (.answered (.ok (.finished trailers)), s) =>
      match scope.check s.moment with
      | .error st => (.answered (.error st), r.fail st, s)
      | .ok () => (.answered (.ok none), { r with trailers := trailers, state := .finished }, s)

end Responses

/-! ## Sending -/

/-- Sends a request, or finds that nobody reads it; waits while there is no room. -/
def sendOperation (id : CallId) (r : Request) : Operation Session Unit (Except Status Bool) where
  turn _ s :=
    match s.slot id with
    | .vacant => (.ready (.ok false), s)
    | .queued spec requests closed =>
      if requests.length < Call.bufferSize then
        (.ready (.ok true), s.setSlot id (.queued spec (requests ++ [r]) closed))
      else (.waiting (), s)
    | .live c =>
      if !c.peer.reads then (.ready (.ok false), s)
      else if c.hasRoom then (.ready (.ok true), s.setSlot id (.live (c.push r)))
      else (.waiting (), s)
  alarm _ _ := none

/-- A stream of responses to one request. -/
structure ServerStream where
  responses : Responses
  scope : Scope

namespace ServerStream

def receive (st : ServerStream) (s : Session) :
    Outcome (Except Status (Option Reply)) × ServerStream × Session :=
  let (r, responses, s) := st.responses.receive st.scope s
  (r, { st with responses := responses }, s)

end ServerStream

/-- A stream in both directions. The sending side is present until it has been closed, or given
up because the scope was triggered. -/
structure BidiStream where
  sender : Option CallId
  responses : Responses
  scope : Scope

namespace BidiStream

/-- Sends a request. A triggered scope ends the stream with its own failure. -/
def send (st : BidiStream) (r : Request) (s : Session) :
    Outcome (Except SendError Unit) × BidiStream × Session :=
  match st.sender with
  | none => (.answered (.error .closed), st, s)
  | some id =>
    match s.run (st.scope.guard (sendOperation id r)) (.fresh ()) with
    | (.unfinished, s) => (.unfinished, st, s)
    | (.answered (.ok true), s) => (.answered (.ok ()), st, s)
    | (.answered (.ok false), s) => (.answered (.error .endOfStream), st, s)
    | (.answered (.error status), s) =>
      (.answered (.error .endOfStream),
        { st with sender := none, responses := st.responses.fail status },
        st.responses.drop s)

/-- Closes the sending side; the server sees the end of its input. -/
def closeSend (st : BidiStream) (s : Session) : BidiStream × Session :=
  match st.sender with
  | none => (st, s)
  | some id => ({ st with sender := none }, s.close id)

def receive (st : BidiStream) (s : Session) :
    Outcome (Except Status (Option Reply)) × BidiStream × Session :=
  let (r, responses, s) := st.responses.receive st.scope s
  (r, { st with responses := responses }, s)

end BidiStream

/-- A stream of requests with a single response. The call runs by itself while requests are
sent. -/
structure ClientStream where
  sender : Option CallId
  call : CallId
  scope : Scope

/-- The result of a call that was stopped from outside. -/
def stoppedCall : Status := .internal "client stream task failed: task was cancelled"

/-- Waits for the single response of a call that runs by itself. -/
def joinOperation (id : CallId) : Operation Session Single (Except Status SingleResponse) where
  turn st s :=
    match s.slot id with
    | .vacant => (.ready (.error stoppedCall), s)
    | _ =>
      match st.takeAll id s with
      | (.ready r, s) => (.ready r, s)
      | (.waiting st, s) => (.waiting st, s)
  alarm _ _ := none

namespace ClientStream

/-- Sends a request. A triggered scope stops the call. -/
def send (st : ClientStream) (r : Request) (s : Session) :
    Outcome (Except SendError Unit) × ClientStream × Session :=
  match st.sender with
  | none => (.answered (.error .closed), st, s)
  | some id =>
    match s.run (st.scope.guard (sendOperation id r)) (.fresh ()) with
    | (.unfinished, s) => (.unfinished, st, s)
    | (.answered (.ok true), s) => (.answered (.ok ()), st, s)
    | (.answered (.ok false), s) => (.answered (.error .endOfStream), st, s)
    | (.answered (.error _), s) =>
      (.answered (.error .endOfStream), { st with sender := none }, s.abandon st.call)

/-- Closes the sending side and waits for the response; the stream is used up. -/
def closeAndReceive (st : ClientStream) (s : Session) :
    Outcome (Except Status SingleResponse) × Session :=
  let s := match st.sender with
    | some id => s.close id
    | none => s
  let (r, s) := s.run (st.scope.guard (joinOperation st.call)) (.fresh .unopened)
  (r, s.abandon st.call)

end ClientStream

/-! ## Calls -/

/-- A client of one server, which may not be there. -/
structure Client where
  target : Target
  reachable : Bool

namespace Client

/-- An operation that fails at once for want of a server. -/
def failing {α : Type} : Operation Session Unit (Except Status α) :=
  ⟨fun _ s => (.ready (.error CallSpec.unreachable), s), fun _ _ => none⟩

/-- The call of a method with options, which may not come to be. -/
def prepare (c : Client) (service : ServiceName) (invocation : Invocation) (o : CallOptions)
    (s : Session) : Except Status CallSpec :=
  (o.request s.moment).map fun metadata =>
    ⟨service, invocation, metadata, c.target.compression, c.reachable⟩

/-- Calls a method with a single response. -/
def unary (c : Client) (service : ServiceName) (invocation : Invocation) (o : CallOptions)
    (s : Session) : Outcome (Except Status SingleResponse) × Session :=
  match c.prepare service invocation o s with
  | .error st => (.answered (.error st), s)
  | .ok spec =>
    if c.reachable then
      let id := s.slots.length
      let (r, s) := s.run (o.scope.guard unaryOperation) (.fresh (.unsent spec))
      (r, (s.abandon id).delay)
    else s.run (o.scope.guard failing) (.fresh ())

/-- A client with a new connection to the same server. Calls go on while it connects. -/
def reconnect (c : Client) (s : Session) : Except String Client × Session :=
  (if c.reachable then .ok c else .error "couldn't reconnect: transport error", s.settle)

/-- Opens a call, and gives up one that cannot be opened. -/
def openCall (c : Client) (service : ServiceName) (invocation : Invocation)
    (o : CallOptions) (s : Session) : Outcome (Except Status (CallId × Responses)) × Session :=
  match c.prepare service invocation o s with
  | .error st => (.answered (.error st), s)
  | .ok spec =>
    if c.reachable then
      let id := s.slots.length
      match s.run (o.scope.guard openOperation) (.fresh (.unsent spec)) with
      | (.unfinished, s) => (.unfinished, s)
      | (.answered (.error st), s) => (.answered (.error st), s.abandon id)
      | (.answered (.ok (id, headers)), s) =>
        (.answered (.ok (id, Responses.opened id headers)), s)
    else s.run (o.scope.guard failing) (.fresh ())

/-- Calls a method with many responses to one request. -/
def serverStreaming (c : Client) (service : ServiceName) (invocation : Invocation)
    (o : CallOptions) (s : Session) : Outcome (Except Status ServerStream) × Session :=
  match c.openCall service invocation o s with
  | (.unfinished, s) => (.unfinished, s)
  | (.answered (.error st), s) => (.answered (.error st), s)
  | (.answered (.ok (_, responses)), s) => (.answered (.ok ⟨responses, o.scope⟩), s)

/-- Calls a method with many requests and many responses. -/
def bidiStreaming (c : Client) (invocation : Invocation) (o : CallOptions) (s : Session) :
    Outcome (Except Status BidiStream) × Session :=
  match c.openCall .test invocation o s with
  | (.unfinished, s) => (.unfinished, s)
  | (.answered (.error st), s) => (.answered (.error st), s)
  | (.answered (.ok (id, responses)), s) =>
    (.answered (.ok ⟨some id, responses, o.scope⟩), s)

/-- Calls a method with many requests and one response. The call begins by itself, so opening
it does not wait. -/
def clientStreaming (c : Client) (o : CallOptions) (s : Session) :
    Except Status ClientStream × Session :=
  match c.prepare .test .streamingInputCall o s with
  | .error st => (.error st, s)
  | .ok spec =>
    let (id, s) := s.enqueue spec
    (.ok ⟨some id, id, o.scope⟩, s)

end Client

end RpcConformance
