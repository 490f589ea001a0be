import RpcConformance.Call.Event
import RpcConformance.Service.Inbox

/-!
# Scripted servers

A scripted server answers each call as it is told, whatever is asked: it may wait, refuse, read
requests, send responses and end with any status and trailers. It reads every request to the
end, also after its own end of the call, unless it has refused the call.
-/

namespace RpcConformance

/-- A step of a script after the call has been opened. -/
inductive ScriptStep
  /-- Waits for a request, or the end of the requests. -/
  | receive
  /-- Waits for the end of the requests. -/
  | drain
  | pause (p : Pause)
  | reply (r : Reply)

/-- What a scripted server does with one call. -/
structure Behaviour where
  openAfter : Duration := ⟨0⟩
  /-- Refuses the call instead of answering it. -/
  refusal : Option Status := none
  headers : Metadata := .empty
  steps : List ScriptStep := []
  trailers : Metadata := .empty
  status : Status := .success

/-- Where a script is. -/
inductive ScriptPhase
  | opening (p : Pause)
  | playing (steps : List ScriptStep)
  | finished
  /-- The call has been refused, and its requests are not read. -/
  | refused

/-- A script that is being played. -/
structure ScriptRun where
  behaviour : Behaviour
  phase : ScriptPhase

namespace ScriptRun

def start (b : Behaviour) : ScriptRun := ⟨b, .opening (.fresh b.openAfter)⟩

/-- Reads all requests that have arrived; whether the end has come, too. -/
def drainInbox (i : Inbox Unit) : Bool × Inbox Unit := (i.closed, ⟨[], i.closed⟩)

/-- The status with which the script ends a call that it has opened. -/
def closing (b : Behaviour) : Status :=
  { b.status with metadata := b.status.metadata.merge b.trailers }

/-- Takes steps until one waits or there is something to send. -/
def play (b : Behaviour) (m : Moment) :
    List ScriptStep → Inbox Unit → Turn ScriptPhase (ResponsePart × ScriptPhase) × Inbox Unit
  | [], i => (.ready (.trailers (closing b), .finished), i)
  | .reply r :: rest, i => (.ready (.message r, .playing rest), i)
  | .pause p :: rest, i =>
    match (Pause.operation.turn p m).1 with
    | .ready () => play b m rest i
    | .waiting p => (.waiting (.playing (.pause p :: rest)), i)
  | .drain :: rest, i =>
    match drainInbox i with
    | (true, i) => play b m rest i
    | (false, i) => (.waiting (.playing (.drain :: rest)), i)
  | .receive :: rest, i =>
    match Inbox.read m i.arrivals i.closed with
    | (.ready _, i) => play b m rest i
    | (.waiting (), i) => (.waiting (.playing (.receive :: rest)), i)

/-- Goes on until there is something to send, or nothing to do. -/
def turn (r : ScriptRun) (m : Moment) (i : Inbox Unit) :
    Turn ScriptRun (ResponsePart × ScriptRun) × Inbox Unit :=
  match r.phase with
  | .finished => (.waiting r, i)
  | .refused => (.waiting r, i)
  | .opening p =>
    match (Pause.operation.turn p m).1 with
    | .waiting p => (.waiting { r with phase := .opening p }, i)
    | .ready () =>
      match r.behaviour.refusal with
      | none =>
        (.ready (.headers r.behaviour.headers,
          { r with phase := .playing r.behaviour.steps }), i)
      | some s => (.ready (.refusal s, { r with phase := .refused }), i)
  | .playing steps =>
    match play r.behaviour m steps i with
    | (.waiting phase, i) => (.waiting { r with phase := phase }, i)
    | (.ready (part, phase), i) => (.ready (part, { r with phase := phase }), i)

/-- The timer that the script has set. -/
def alarm (r : ScriptRun) : Option Instant :=
  match r.phase with
  | .opening (.until due) => some due
  | .playing (.pause (.until due) :: _) => some due
  | _ => none

/-- The requests of the call are still read. -/
def reads (r : ScriptRun) : Bool :=
  match r.phase with
  | .refused => false
  | _ => true

/-- A bound on the parts and timers to come. -/
def work (r : ScriptRun) : Nat :=
  match r.phase with
  | .opening _ => r.behaviour.steps.length + 3
  | .playing steps => steps.length + 2
  | .finished => 0
  | .refused => 0

end ScriptRun

end RpcConformance
