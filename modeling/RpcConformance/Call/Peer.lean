import RpcConformance.Call.Reception
import RpcConformance.Call.Script
import RpcConformance.Trailers

/-!
# The server's side of a call

A peer turns requests into the parts of a response. The reference server opens a stream with its
headers at once. Its messages and the status behind them are the body of the response, which
reaches the client through the trailers layer: there pending trailers are added to the end of the
call, whether the call ends well or not. Scopes on this side are never cancelled, so only the
clock matters to a peer.
-/

namespace RpcConformance

/-- A request of a call with many requests. -/
inductive Request
  | input (r : StreamingInputRequest)
  | output (r : StreamingOutputRequest)

namespace Request

/-- The request as one whose payload is summed up. -/
def toInput : Request → StreamingInputRequest
  | input r => r
  | output r => ⟨r.payload⟩

/-- The request as one for responses. -/
def toOutput : Request → StreamingOutputRequest
  | output r => r
  | input _ => {}

end Request

/-- The body of a response of the reference server: messages, and then trailers with a status. -/
inductive ReplyBody
  /-- A single message, as long as it has not been sent. -/
  | single (message : Option Reply)
  /-- A stream of responses, with what it sees. -/
  | stream (s : ResponseStream) (w : Seat StreamingOutputRequest)
  /-- The status has been sent. -/
  | closed (s : Status)

namespace ReplyBody

/-- The trailers of a body are the metadata of its status. -/
def poll : ReplyBody → Poll Reply × ReplyBody
  | single (some m) => (.frame (.data m), single none)
  | single none => (.frame (.trailers .empty), closed .success)
  | stream s w =>
    match s.turn w with
    | (.waiting s, w) => (.pending, stream s w)
    | (.ready (.response p, s), w) => (.frame (.data (.output (some p))), stream s w)
    | (.ready (.failed st, _), _) => (.frame (.trailers st.metadata), closed st)
    | (.ready (.finished, _), _) => (.frame (.trailers .empty), closed .success)
  | closed s => (.ended, closed s)

/-- A body does not know the length of what is to come. -/
instance : Body Reply ReplyBody where
  poll := poll
  atEnd
    | closed _ => true
    | _ => false
  dataLeft _ := 0

/-- The status of the trailers that have been sent. -/
def status : ReplyBody → Status
  | closed s => s
  | _ => .success

end ReplyBody

/-- The part that the client gets for a poll of a body, whose status goes with its trailers. -/
def ResponsePart.ofPoll (status : Status) : Poll Reply → Option ResponsePart
  | .frame (.data m) => some (.message m)
  | .frame (.trailers md) => some (.trailers { status with metadata := md })
  | _ => none

/-- The server's side of a call. -/
inductive Peer
  /-- All that is left has been decided. -/
  | replying (parts : List ResponsePart)
  /-- The reference server sums up the requests. -/
  | summing (scope : Scope) (state : Collected Nat) (inbox : Inbox StreamingInputRequest)
  /-- The reference server opens a stream, whose headers go first and whose end gets the pending
  trailers. -/
  | streaming (headers : Option Metadata) (s : ResponseStream)
    (inbox : Inbox StreamingOutputRequest) (pending : Option Metadata)
  | scripted (run : ScriptRun) (inbox : Inbox Unit)

namespace Peer

/-- A moment on the server's side. -/
def moment (now : Instant) : Moment := ⟨now, []⟩

/-- The parts of a single response, whose body goes through the trailers layer. -/
def single (r : Response Reply) : List ResponsePart :=
  let answer := Answered.withEcho ⟨ReplyBody.single (some r.message), r.pendingTrailers⟩
  .headers r.headers ::
    (observe 3 answer.body).filterMap fun o => ResponsePart.ofPoll .success o.poll

/-- The side of a call that the reference server handles. -/
def ofHandling (sums : Inbox StreamingInputRequest) (outputs : Inbox StreamingOutputRequest) :
    Handling → Peer
  | .answered r => .replying (single r)
  | .refused s => .replying [.refusal s]
  | .summing scope => .summing scope (.start 0) sums
  | .streaming r =>
    let answer := Answered.withEcho ⟨r.message, r.pendingTrailers⟩
    .streaming (some r.headers) answer.body.inner outputs answer.body.pending

/-- The side of a call whose headers have been sent: nothing is left of a body that is no longer
a stream. -/
def ofBody : EchoBody ReplyBody → Peer
  | ⟨.stream s w, pending⟩ => .streaming none s w.inbox pending
  | _ => .replying []

/-- The response to a call whose requests have been summed up. -/
def ofSum (r : Except Status Nat) : List ResponsePart :=
  match r.bind ReferenceServer.aggregate with
  | .ok reply => single ⟨reply, .empty, none⟩
  | .error s => [.refusal s]

/-- Goes on until there is something to send, or nothing to do. -/
def turn (now : Instant) : Peer → Turn Peer (Option ResponsePart × Peer)
  | .replying [] => .waiting (.replying [])
  | .replying (part :: rest) => .ready (some part, .replying rest)
  | .summing scope state inbox =>
    match (ReferenceServer.sum scope).turn state ⟨moment now, inbox⟩ with
    | (.waiting state, w) => .waiting (.summing scope state w.inbox)
    | (.ready r, _) => .ready (none, .replying (ofSum r))
  | .streaming (some headers) s inbox pending =>
    .ready (some (.headers headers), .streaming none s inbox pending)
  | .streaming none s inbox pending =>
    match Body.poll (EchoBody.mk (ReplyBody.stream s ⟨moment now, inbox⟩) pending) with
    | (.pending, body) => .waiting (ofBody body)
    | (p, body) => .ready (ResponsePart.ofPoll body.inner.status p, ofBody body)
  | .scripted run inbox =>
    match run.turn (moment now) inbox with
    | (.waiting run, inbox) => .waiting (.scripted run inbox)
    | (.ready (part, run), inbox) => .ready (some part, .scripted run inbox)

/-- The earliest timer that the peer has set. -/
def alarm (now : Instant) : Peer → Option Instant
  | .replying _ => none
  | .summing scope state inbox => (ReferenceServer.sum scope).alarm state ⟨moment now, inbox⟩
  | .streaming _ s inbox _ => s.alarm ⟨moment now, inbox⟩
  | .scripted run _ => run.alarm

/-- The responses that a request asks for as it arrives. -/
def askedBy : Arrival StreamingOutputRequest → Nat
  | .message r => r.parameters.length
  | _ => 0

/-- The responses that the requests of an inbox ask for. -/
def askedFor (i : Inbox StreamingOutputRequest) : Nat := (i.arrivals.map askedBy).foldr (· + ·) 0

/-- The responses still to come for requests that have been read. -/
def responsesLeft : ResponseStream → Nat
  | .output s => s.parameters.length
  | .fullDuplex ⟨_, .answering s⟩ => s.parameters.length
  | .fullDuplex _ => 0
  | .halfDuplex ⟨_, .buffering c⟩ => (c.soFar.map (·.parameters.length)).foldr (· + ·) 0
  | .halfDuplex ⟨_, .answering s rest⟩ =>
    s.parameters.length + (rest.map (·.parameters.length)).foldr (· + ·) 0
  | .halfDuplex _ => 0

/-- A bound on the parts and timers to come, as long as no request is added. -/
def work : Peer → Nat
  | .replying parts => parts.length
  | .summing _ _ _ => 5
  | .streaming _ s inbox _ => responsesLeft s + askedFor inbox + 4
  | .scripted run _ => run.work

/-- The peer still reads requests. -/
def reads : Peer → Bool
  | .replying _ => false
  | .scripted run _ => run.reads
  | _ => true

/-- A request as the reference server reads it. Compression leaves none too long. -/
def arrival {ρ : Type} (compressed : Bool) (length : ρ → Nat) (r : ρ) : Arrival ρ :=
  if compressed then .message r else (Arrival.message r).limited length

/-- A request arrives; one that nobody reads is lost. A scripted server takes requests of any
length. -/
def push (compressed : Bool) (r : Request) : Peer → Peer
  | .replying parts => .replying parts
  | .summing scope state inbox =>
    .summing scope state
      (inbox.push (arrival compressed StreamingInputRequest.encodedLength r.toInput))
  | .streaming headers s inbox pending =>
    .streaming headers s
      (inbox.push (arrival compressed StreamingOutputRequest.encodedLength r.toOutput)) pending
  | .scripted run inbox => .scripted run (inbox.push (.message ()))

/-- The client closes its side. -/
def close : Peer → Peer
  | .replying parts => .replying parts
  | .summing scope state inbox => .summing scope state inbox.close
  | .streaming headers s inbox pending => .streaming headers s inbox.close pending
  | .scripted run inbox => .scripted run inbox.close

end Peer

/-- A call in progress: the server's side, how the client reads its response, and the events
that the client has not taken. -/
structure Call where
  peer : Peer
  reception : Reception
  waiting : List Event
  /-- Requests that were sent since the server last went on. -/
  unsettled : Nat

namespace Call

/-- Lets the server's side go on as far as it can. -/
def advanceWithin (now : Instant) : Nat → Call → Call
  | 0, c => c
  | fuel + 1, c =>
    match c.peer.turn now with
    | .waiting peer => { c with peer := peer }
    | .ready (none, peer) => advanceWithin now fuel { c with peer := peer }
    | .ready (some part, peer) =>
      advanceWithin now fuel
        { c with
          peer := peer
          reception := c.reception.after part
          waiting := c.waiting ++ c.reception.events part }

/-- Lets the server's side go on as far as it can at an instant. -/
def advance (now : Instant) (c : Call) : Call :=
  { advanceWithin now (c.peer.work + 1) c with unsettled := 0 }

/-- Most requests that are sent before the server goes on. -/
def bufferSize : Nat := 16

/-- There is room for a request. -/
def hasRoom (c : Call) : Bool := c.unsettled < bufferSize

/-- Sends a request. -/
def push (r : Request) (c : Call) : Call :=
  { c with peer := c.peer.push c.reception.compressed r, unsettled := c.unsettled + 1 }

/-- Closes the client's side. -/
def close (c : Call) : Call := { c with peer := c.peer.close }

end Call

end RpcConformance
