import RpcConformance.Scope
import RpcConformance.Wire.Length

/-!
# Incoming requests

The requests of a client stream arrive one after another until the client closes its side or
the stream fails. A pause between two requests begins when the service waits for the second.
-/

namespace RpcConformance

/-- What comes next on a request stream. -/
inductive Arrival (ρ : Type)
  | message (request : ρ)
  | pause (p : Pause)
  | failure (s : Status)

/-- What comes next as it is read: a message that is too long is a failure. -/
def Arrival.limited {ρ : Type} (length : ρ → Nat) : Arrival ρ → Arrival ρ
  | .message r =>
    if maxMessageLength < length r then .failure (tooLong (length r)) else .message r
  | a => a

/-- The requests that have not been read. -/
structure Inbox (ρ : Type) where
  arrivals : List (Arrival ρ)
  /-- Nothing more will arrive. -/
  closed : Bool

/-- What a service sees at one poll: the moment and its requests. -/
structure Seat (ρ : Type) where
  moment : Moment
  inbox : Inbox ρ

instance {ρ : Type} : Scheduler (Seat ρ) where
  moment s := s.moment
  settle s := s
  alarm _ := none
  timers s := s.inbox.arrivals.length
  moveTo t s := { s with moment := { s.moment with now := t } }

namespace Inbox

variable {ρ : Type}

/-- No requests, and no more to come. -/
def none : Inbox ρ := ⟨[], true⟩

/-- Nothing has arrived yet. -/
def empty : Inbox ρ := ⟨[], false⟩

/-- Something more arrives. -/
def push (i : Inbox ρ) (a : Arrival ρ) : Inbox ρ := { i with arrivals := i.arrivals ++ [a] }

/-- The client closes its side. -/
def close (i : Inbox ρ) : Inbox ρ := { i with closed := true }

/-- Reads the next request, or the end. A stream that fails as cancelled ends like any other;
after a failure nothing comes. -/
def read (m : Moment) : List (Arrival ρ) → Bool →
    Turn Unit (Except Status (Option ρ)) × Inbox ρ
  | [], closed => (if closed then .ready (.ok .none) else .waiting (), ⟨[], closed⟩)
  | .message r :: rest, closed => (.ready (.ok (some r)), ⟨rest, closed⟩)
  | .failure s :: _, _ =>
    (.ready (if s.code = .cancelled then .ok .none else .error s), ⟨[], true⟩)
  | .pause p :: rest, closed =>
    match Pause.operation.turn p m with
    | (.ready (), _) => read m rest closed
    | (.waiting p, _) => (.waiting (), ⟨.pause p :: rest, closed⟩)

/-- Waits for the next request, or the end. -/
def next : Operation (Seat ρ) Unit (Except Status (Option ρ)) where
  turn _ w :=
    let (t, inbox) := read w.moment w.inbox.arrivals w.inbox.closed
    (t, { w with inbox := inbox })
  alarm _ w :=
    match w.inbox.arrivals with
    | .pause p :: _ => Pause.operation.alarm p w
    | _ => .none

end Inbox

end RpcConformance
