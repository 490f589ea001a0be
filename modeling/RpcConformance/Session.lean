import RpcConformance.Call.Peer

/-!
# A client's world

A session holds the clock, the signals that have been given, the server, and all calls in
progress. A call begins when it is first polled: the server looks at its metadata and notes it.
A call that runs by itself, while its client goes on, waits in a queue and begins when the
client next waits.
-/

namespace RpcConformance

/-- The two services that a client can address. -/
inductive ServiceName
  | test
  | unimplemented
deriving DecidableEq

namespace ServiceName

def name : ServiceName → String
  | test => Agreed.testService
  | unimplemented => Agreed.unimplementedService

end ServiceName

/-- A call as a client makes it. -/
structure CallSpec where
  service : ServiceName := .test
  invocation : Invocation
  metadata : Metadata
  /-- Messages are sent and accepted compressed. -/
  compressed : Bool := false
  /-- There is a connection to the server. -/
  connected : Bool := true

namespace CallSpec

/-- How a call fails that finds no server. -/
def unreachable : Status := .unavailable "tcp connect error"

/-- The path of the called method. -/
def path (c : CallSpec) : String := "/" ++ c.service.name ++ "/" ++ c.invocation.method

/-- The name under which a scripted server finds the method. -/
def scriptName (c : CallSpec) : String :=
  match c.service with
  | .test => c.invocation.method
  | .unimplemented => "UnimplementedService/" ++ c.invocation.method

/-- The client sends requests after the call has begun. -/
def isOpenEnded (c : CallSpec) : Bool :=
  match c.invocation with
  | .streamingInputCall => true
  | .fullDuplexCall => true
  | .halfDuplexCall => true
  | _ => false

end CallSpec

/-- What a server notes of a call as it begins. -/
structure SeenCall where
  path : String
  metadata : Metadata

/-- The server of a session. -/
inductive Backend
  | reference (server : ReferenceServer)
  /-- A server with a list of behaviours for each method. -/
  | scripted (methods : List (String × List Behaviour))

namespace Backend

/-- What a scripted server does with call `n` of a method: the last behaviour serves all later
calls, and a method without behaviours is not implemented. -/
def behaviour (methods : List (String × List Behaviour)) (name : String) (n : Nat) :
    Behaviour :=
  let found := (methods.lookup name).getD []
  match found[n]? with
  | some b => b
  | none => found.getLast?.getD { refusal := some (.unimplemented "") }

/-- The requests that are known when a call begins: one where there is exactly one, and then
the end. -/
def firstRequests (c : CallSpec) : Inbox Unit :=
  if c.isOpenEnded then .empty else ⟨[.message ()], true⟩

/-- The server's side of a call; `earlier` calls of the same method have begun before. -/
def accept (b : Backend) (c : CallSpec) (now : Instant) (earlier : Nat) : Peer :=
  match b with
  | .scripted methods =>
    .scripted (.start (behaviour methods c.scriptName earlier)) (firstRequests c)
  | .reference server =>
    match c.service with
    | .unimplemented => .replying [.refusal (.unimplemented "")]
    | .test =>
      if !c.compressed && maxMessageLength < c.invocation.requestLength then
        .replying [.refusal (tooLong c.invocation.requestLength)]
      else if c.isOpenEnded then
        Peer.ofHandling .empty .empty (server.handle c.invocation c.metadata now 0)
      else Peer.ofHandling .none .none (server.handle c.invocation c.metadata now 0)

end Backend

/-- A place in the table of calls. -/
inductive Slot
  | vacant
  /-- A call that begins when the client next waits, with the requests for it so far. -/
  | queued (spec : CallSpec) (requests : List Request) (closed : Bool)
  | live (c : Call)

/-- The number of a call in its session. -/
abbrev CallId := Nat

structure Session where
  moment : Moment
  /-- The first token that has not been used. -/
  nextToken : Token
  server : Backend
  seen : List SeenCall
  slots : List Slot
  /-- The time that a call with a single response takes besides all waiting. -/
  lag : Duration := ⟨0⟩

namespace Session

/-- A client that has done nothing. -/
def start (server : Backend) : Session :=
  { moment := .start, nextToken := 0, server := server, seen := [], slots := [] }

/-- A new scope, with a token of its own. -/
def newScope (s : Session) (deadline : Option Instant) : Scope × Session :=
  (⟨deadline, s.nextToken⟩, { s with nextToken := s.nextToken + 1 })

def cancel (s : Session) (scope : Scope) : Session :=
  { s with moment := s.moment.cancel scope.token }

/-- The server's side of a new call, which the server notes. -/
def accept (s : Session) (spec : CallSpec) : Call × Session :=
  let earlier := s.seen.countP fun c => c.path = spec.path
  (⟨s.server.accept spec s.moment.now earlier, ⟨spec.invocation, spec.compressed, false⟩, [], 0⟩,
    { s with seen := s.seen ++ [⟨spec.path, spec.metadata⟩] })

/-- Begins a call. -/
def begin (s : Session) (spec : CallSpec) : CallId × Session :=
  let (call, s) := s.accept spec
  (s.slots.length, { s with slots := s.slots ++ [.live call] })

/-- Queues a call. -/
def enqueue (s : Session) (spec : CallSpec) : CallId × Session :=
  (s.slots.length, { s with slots := s.slots ++ [.queued spec [] false] })

/-- The call of a slot that has been queued or begun. -/
def slot (s : Session) (id : CallId) : Slot := s.slots.getD id .vacant

def setSlot (s : Session) (id : CallId) (slot : Slot) : Session :=
  { s with slots := s.slots.set id slot }

/-- Gives a call up. -/
def abandon (s : Session) (id : CallId) : Session := s.setSlot id .vacant

/-- Gives all calls up. -/
def abandonAll (s : Session) : Session := { s with slots := s.slots.map fun _ => .vacant }

/-- Time passes by the lag of a call. -/
def delay (s : Session) : Session :=
  { s with moment := { s.moment with now := s.moment.now.later s.lag } }

/-- The call of a client that goes on by itself: without a connection it ends at once, and the
server does not note it. -/
def reach (s : Session) (spec : CallSpec) : Call × Session :=
  if spec.connected then s.accept spec
  else (⟨.replying [], ⟨spec.invocation, spec.compressed, false⟩, [.ended CallSpec.unreachable], 0⟩,
    s)

/-- A queued call begins with the requests that have been sent to it. -/
def beginQueued (s : Session) (spec : CallSpec) (requests : List Request) (closed : Bool) :
    Slot × Session :=
  let (call, s) := s.reach spec
  let call := requests.foldl (fun c r => c.push r) call
  (.live (if closed then call.close else call), s)

/-- Every queued call begins, in order. -/
def beginAll : List Slot → Session → List Slot × Session
  | [], s => ([], s)
  | .queued spec requests closed :: rest, s =>
    let (slot, s) := s.beginQueued spec requests closed
    let (slots, s) := beginAll rest s
    (slot :: slots, s)
  | slot :: rest, s =>
    let (slots, s) := beginAll rest s
    (slot :: slots, s)

/-- The server goes on with a call as far as it can. -/
def advanceSlot (now : Instant) : Slot → Slot
  | .live c => .live (c.advance now)
  | slot => slot

/-- Queued calls begin, and the server goes on with every call. -/
def settle (s : Session) : Session :=
  let (slots, s) := beginAll s.slots s
  { s with slots := slots.map (advanceSlot s.moment.now) }

def slotAlarm (now : Instant) : Slot → Option Instant
  | .live c => c.peer.alarm now
  | _ => none

def slotWork : Slot → Nat
  | .live c => c.peer.work
  | _ => 0

def slotMessages : Slot → Nat
  | .live c => c.waiting.length + c.peer.work
  | _ => 0

/-- A bound on the messages that the calls of a session can still give. -/
def messageBound (s : Session) : Nat := (s.slots.map slotMessages).foldr (· + ·) 0

instance : Scheduler Session where
  moment s := s.moment
  settle := settle
  alarm s := s.slots.foldl (fun t slot => Instant.earliest t (slotAlarm s.moment.now slot)) none
  timers s := (s.slots.map slotWork).foldr (· + ·) 0
  moveTo t s := { s with moment := { s.moment with now := t } }

/-- Takes the next event of a call. -/
def take (s : Session) (id : CallId) : Option (Event × Session) :=
  match s.slot id with
  | .live c =>
    match c.waiting with
    | e :: rest => some (e, s.setSlot id (.live { c with waiting := rest }))
    | [] => none
  | _ => none

/-- Closes the client's side of a call. -/
def close (s : Session) (id : CallId) : Session :=
  match s.slot id with
  | .live c => s.setSlot id (.live c.close)
  | .queued spec requests _ => s.setSlot id (.queued spec requests true)
  | .vacant => s

/-- Runs an operation of the client, which sets at most a timer and a deadline of its own. -/
def run {σ α : Type} (s : Session) (op : Operation Session σ α) (state : σ) :
    Outcome α × Session :=
  op.run none 2 state s

end Session

end RpcConformance
