import RpcConformance.Operation
import RpcConformance.Status
import RpcConformance.Timeout

/-!
# Call scopes

A scope bounds the operations of a call by a deadline and a cancellation signal. Clones share
the signal and have the same deadline. `guard` races an operation against its scope: before
the operation is run, and then at every poll, the signal is looked at first, the deadline's
timer second, and the operation last. A failure that is seen once the scope has been triggered
becomes the scope's own failure; an answer never does.
-/

namespace RpcConformance

/-- The deadline and the cancellation signal of a call. -/
structure Scope where
  deadline : Option Instant
  token : Token
deriving DecidableEq

namespace Scope

/-- How a cancelled operation fails. -/
def cancelledStatus : Status := .cancelled "call cancelled"

/-- How an operation fails whose deadline has been reached. -/
def expiredStatus : Status := .deadlineExceeded "deadline exceeded"

def isCancelled (s : Scope) (m : Moment) : Bool := m.isCancelled s.token

/-- The deadline has been reached. -/
def isExpired (s : Scope) (m : Moment) : Bool :=
  match s.deadline with
  | some d => d ≤ m.now
  | none => false

/-- Time left until the deadline, zero from then on. -/
def remaining (s : Scope) (m : Moment) : Option Duration :=
  s.deadline.map fun d => d.since m.now

/-- The failure of a scope that has been triggered. -/
def failure? (s : Scope) (m : Moment) : Option Status :=
  if s.isCancelled m then some cancelledStatus
  else if s.isExpired m then some expiredStatus
  else none

/-- Fails once the scope has been triggered. -/
def check (s : Scope) (m : Moment) : Except Status Unit :=
  match s.failure? m with
  | some st => .error st
  | none => .ok ()

/-- A failure as it is reported: the scope's own one, where the scope has been triggered and
its code is another. -/
def overrule (s : Scope) (m : Moment) (st : Status) : Status :=
  match s.failure? m with
  | some own => if own.code = st.code then st else own
  | none => st

/-- The deadline's timer has fired. -/
def timerFired (s : Scope) (m : Moment) : Bool :=
  match s.deadline with
  | some d => Instant.fired d m.now
  | none => false

/-- The timeout that a call announces: the first timeout header counts, and a malformed one is
ignored. -/
def announced (md : Metadata) : Option Duration :=
  ((md.get? Timeout.header).bind HeaderValue.text?).bind Timeout.parse

/-- The scope of an incoming call. -/
def ofMetadata (md : Metadata) (now : Instant) (token : Token) : Scope :=
  ⟨(announced md).map now.later, token⟩

/-- The states of a guarded operation: not begun, or racing against the scope. -/
inductive Guarded (σ : Type)
  | fresh (state : σ)
  | racing (state : σ)

variable {W σ α : Type} [Timeline W]

/-- One poll of the race. -/
def race (s : Scope) (op : Operation W σ (Except Status α)) (state : σ) (w : W) :
    Turn (Guarded σ) (Except Status α) × W :=
  let m := Timeline.moment w
  if s.isCancelled m then (.ready (.error cancelledStatus), w)
  else if s.timerFired m then (.ready (.error expiredStatus), w)
  else match op.turn state w with
    | (.waiting state, w) => (.waiting (.racing state), w)
    | (.ready (.ok a), w) => (.ready (.ok a), w)
    | (.ready (.error st), w) => (.ready (.error (s.overrule (Timeline.moment w) st)), w)

/-- Runs an operation until it ends or the scope is triggered. A signal that was given during
the last poll is seen at once. -/
def guard (s : Scope) (op : Operation W σ (Except Status α)) :
    Operation W (Guarded σ) (Except Status α) where
  turn state w :=
    match state with
    | .fresh state =>
      match s.failure? (Timeline.moment w) with
      | some st => (.ready (.error st), w)
      | none => s.race op state w
    | .racing state => s.race op state w
  alarm state w :=
    match state with
    | .fresh _ => none
    | .racing state =>
      if s.isCancelled (Timeline.moment w) then some .start
      else Instant.earliest s.deadline (op.alarm state w)

/-- A pause as an operation that may fail. -/
def pause : Operation W Pause (Except Status Unit) where
  turn state w :=
    match Pause.operation.turn state w with
    | (.ready (), w) => (.ready (.ok ()), w)
    | (.waiting state, w) => (.waiting state, w)
  alarm := Pause.operation.alarm

/-- A guarded pause, after which the scope is looked at once more. -/
def sleep (s : Scope) : Operation W (Guarded Pause) (Except Status Unit) where
  turn state w :=
    match (s.guard pause).turn state w with
    | (.waiting state, w) => (.waiting state, w)
    | (.ready (.error st), w) => (.ready (.error st), w)
    | (.ready (.ok ()), w) => (.ready (s.check (Timeline.moment w)), w)
  alarm := (s.guard pause).alarm

end Scope

end RpcConformance
