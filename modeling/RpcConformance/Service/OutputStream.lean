import RpcConformance.Agreed
import RpcConformance.Scope

/-!
# Paced responses

A stream of responses has one response for each of its parameters, in order, each after the
pause that the parameter asks for, and then perhaps a status. Requests that could not be
answered in full are refused before anything is sent. Before each response the scope is looked
at twice, before and after the pause, so that none leaves once the scope has been triggered.
-/

namespace RpcConformance

/-- What a response stream gives when it is polled for its next item. -/
inductive Item
  | response (payload : Payload)
  | failed (s : Status)
  | finished
deriving DecidableEq

/-- The status that a request asks for; the code zero asks for none. -/
def requestedStatus? (s : Option EchoStatus) : Option Status :=
  match s with
  | some e => if e.code = 0 then none else some ⟨Code.ofNumber e.code, e.message, [], .empty⟩
  | none => none

/-- Refuses the first parameter with a negative size or interval. -/
def admitParameters : List ResponseParameters → Except Status Unit
  | [] => .ok ()
  | p :: rest =>
    if p.size < 0 then .error (PayloadError.negativeSize p.size).toStatus
    else if p.intervalMicros < 0 then
      .error (.invalidArgument
        ("requested a negative interval: " ++ Decimal.signedText p.intervalMicros))
    else admitParameters rest

/-- Refuses a request that could not be answered in full: the payload type is looked at first,
and then the parameters in order. -/
def admitRequest (kind : Int) (parameters : List ResponseParameters) : Except Status Unit :=
  match Payload.zeros kind 0 with
  | .error e => .error e.toStatus
  | .ok _ => admitParameters parameters

/-- The pause before a response. -/
def ResponseParameters.interval (p : ResponseParameters) : Duration :=
  .ofMicros p.intervalMicros.toNat

/-- Where a response stream is. -/
inductive OutputPhase
  /-- Nothing has been looked at. -/
  | unchecked
  /-- The pause before the next response is to begin. -/
  | idle
  /-- The pause before the next response has begun. -/
  | pausing (state : Scope.Guarded Pause)
  | ended

/-- A stream of responses: what is left to be sent, and what follows then. -/
structure OutputStream where
  scope : Scope
  kind : Int
  parameters : List ResponseParameters
  closing : Option Status
  phase : OutputPhase

namespace OutputStream

/-- A stream that has not begun. -/
def start (scope : Scope) (kind : Int) (parameters : List ResponseParameters)
    (closing : Option Status) : OutputStream :=
  ⟨scope, kind, parameters, closing, .unchecked⟩

/-- The stream that answers one request. -/
def forRequest (scope : Scope) (r : StreamingOutputRequest) : OutputStream :=
  start scope r.responseType r.parameters (requestedStatus? r.responseStatus)

/-- The stream after its last item. -/
def stopped (s : OutputStream) : OutputStream := { s with phase := .ended }

/-- Fails, and has nothing more to give. -/
def failWith (s : OutputStream) (st : Status) : Item × OutputStream := (.failed st, s.stopped)

/-- Goes on with a pause before the first of the given parameters; without parameters the
stream closes. -/
def advance (s : OutputStream) (pause : Option (Scope.Guarded Pause)) (m : Moment) :
    Turn OutputStream (Item × OutputStream) :=
  match s.parameters with
  | [] =>
    match s.closing with
    | some st => .ready (s.failWith st)
    | none => .ready (.finished, s.stopped)
  | p :: rest =>
    match (s.scope.sleep.turn (pause.getD (.fresh (.fresh p.interval))) m).1 with
    | .waiting state => .waiting { s with phase := .pausing state }
    | .ready (.error st) => .ready (s.failWith st)
    | .ready (.ok ()) =>
      match Payload.zeros s.kind p.size with
      | .error e => .ready (s.failWith e.toStatus)
      | .ok payload => .ready (.response payload, { s with parameters := rest, phase := .idle })

/-- One poll for the next item. -/
def turn (s : OutputStream) (m : Moment) : Turn OutputStream (Item × OutputStream) :=
  match s.phase with
  | .ended => .ready (.finished, s)
  | .unchecked =>
    match admitRequest s.kind s.parameters with
    | .error st => .ready (s.failWith st)
    | .ok () => s.advance none m
  | .idle => s.advance none m
  | .pausing state => s.advance (some state) m

/-- The timer of a pause that has begun. -/
def alarm (s : OutputStream) (m : Moment) : Option Instant :=
  match s.phase with
  | .pausing state => s.scope.sleep.alarm state m
  | _ => none

end OutputStream

end RpcConformance
