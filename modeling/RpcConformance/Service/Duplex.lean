import RpcConformance.Service.Collect
import RpcConformance.Service.OutputStream

/-!
# Conversations

Both conversations answer each request with the responses that it asks for, and end at the
first one that fails. A full-duplex conversation answers a request before it reads the next
one; a half-duplex one reads all requests before it answers the first.
-/

namespace RpcConformance

/-- Where a full-duplex conversation is. -/
inductive FullDuplexPhase
  | reading (state : Scope.Guarded Unit)
  | answering (responses : OutputStream)
  | ended

structure FullDuplex where
  scope : Scope
  phase : FullDuplexPhase

namespace FullDuplex

def start (scope : Scope) : FullDuplex := ⟨scope, .reading (.fresh ())⟩

/-- Polls for the next item; each round reads a request or ends the responses to one. -/
def turnWithin (scope : Scope) :
    Nat → FullDuplexPhase → Seat StreamingOutputRequest →
      Turn FullDuplexPhase (Item × FullDuplexPhase) × Seat StreamingOutputRequest
  | 0, phase, w => (.waiting phase, w)
  | _ + 1, .ended, w => (.ready (.finished, .ended), w)
  | fuel + 1, .reading state, w =>
    match (scope.guard Inbox.next).turn state w with
    | (.waiting state, w) => (.waiting (.reading state), w)
    | (.ready (.error st), w) => (.ready (.failed st, .ended), w)
    | (.ready (.ok none), w) => (.ready (.finished, .ended), w)
    | (.ready (.ok (some r)), w) =>
      turnWithin scope fuel (.answering (OutputStream.forRequest scope r)) w
  | fuel + 1, .answering s, w =>
    match s.turn w.moment with
    | .waiting s => (.waiting (.answering s), w)
    | .ready (.response p, s) => (.ready (.response p, .answering s), w)
    | .ready (.failed st, _) => (.ready (.failed st, .ended), w)
    | .ready (.finished, _) => turnWithin scope fuel (.reading (.fresh ())) w

/-- One poll for the next item. -/
def turn (d : FullDuplex) (w : Seat StreamingOutputRequest) :
    Turn FullDuplex (Item × FullDuplex) × Seat StreamingOutputRequest :=
  match turnWithin d.scope (2 * w.inbox.arrivals.length + 3) d.phase w with
  | (.waiting phase, w) => (.waiting ⟨d.scope, phase⟩, w)
  | (.ready (item, phase), w) => (.ready (item, ⟨d.scope, phase⟩), w)

def alarm (d : FullDuplex) (w : Seat StreamingOutputRequest) : Option Instant :=
  match d.phase with
  | .reading state => (d.scope.guard Inbox.next).alarm state w
  | .answering s => s.alarm w.moment
  | .ended => none

end FullDuplex

/-- Where a half-duplex conversation is. -/
inductive HalfDuplexPhase
  | buffering (state : Collected (List StreamingOutputRequest))
  /-- The responses to one request, and the requests after it. -/
  | answering (responses : OutputStream) (rest : List StreamingOutputRequest)
  | ended

structure HalfDuplex where
  scope : Scope
  phase : HalfDuplexPhase

namespace HalfDuplex

def start (scope : Scope) : HalfDuplex := ⟨scope, .buffering (.start [])⟩

/-- Polls the responses to one request, and those to the requests after it where it has no
more. -/
def answer (scope : Scope) (m : Moment) : OutputStream → List StreamingOutputRequest →
    Turn HalfDuplexPhase (Item × HalfDuplexPhase)
  | s, rest =>
    match s.turn m with
    | .waiting s => .waiting (.answering s rest)
    | .ready (.response p, s) => .ready (.response p, .answering s rest)
    | .ready (.failed st, _) => .ready (.failed st, .ended)
    | .ready (.finished, _) =>
      match rest with
      | [] => .ready (.finished, .ended)
      | r :: rest => answer scope m (OutputStream.forRequest scope r) rest

/-- Answers buffered requests in order. -/
def answerAll (scope : Scope) (m : Moment) :
    List StreamingOutputRequest → Turn HalfDuplexPhase (Item × HalfDuplexPhase)
  | [] => .ready (.finished, .ended)
  | r :: rest => answer scope m (OutputStream.forRequest scope r) rest

/-- The operation that buffers the whole input. -/
def buffer (scope : Scope) :
    Operation (Seat StreamingOutputRequest) (Collected (List StreamingOutputRequest))
      (Except Status (List StreamingOutputRequest)) :=
  Collected.operation scope fun requests r => requests ++ [r]

/-- One poll for the next item, from a phase. -/
def phaseTurn (scope : Scope) (phase : HalfDuplexPhase) (w : Seat StreamingOutputRequest) :
    Turn HalfDuplexPhase (Item × HalfDuplexPhase) × Seat StreamingOutputRequest :=
  match phase with
  | .ended => (.ready (.finished, .ended), w)
  | .answering s rest => (answer scope w.moment s rest, w)
  | .buffering state =>
    match (buffer scope).turn state w with
    | (.waiting state, w) => (.waiting (.buffering state), w)
    | (.ready (.error st), w) => (.ready (.failed st, .ended), w)
    | (.ready (.ok requests), w) => (answerAll scope w.moment requests, w)

/-- One poll for the next item. -/
def turn (d : HalfDuplex) (w : Seat StreamingOutputRequest) :
    Turn HalfDuplex (Item × HalfDuplex) × Seat StreamingOutputRequest :=
  match phaseTurn d.scope d.phase w with
  | (.waiting phase, w) => (.waiting ⟨d.scope, phase⟩, w)
  | (.ready (item, phase), w) => (.ready (item, ⟨d.scope, phase⟩), w)

def alarm (d : HalfDuplex) (w : Seat StreamingOutputRequest) : Option Instant :=
  match d.phase with
  | .buffering state => (buffer d.scope).alarm state w
  | .answering s _ => s.alarm w.moment
  | .ended => none

end HalfDuplex

end RpcConformance
