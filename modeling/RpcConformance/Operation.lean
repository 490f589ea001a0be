import RpcConformance.Time

/-!
# Operations that wait

An operation is polled at moments of a world. A poll is a *turn*: the operation answers, or
it keeps a state with which it is polled again. While it waits, other tasks of the world take
their turns, and when nothing can go on the clock jumps to the earliest timer. `run` polls
an operation until it answers. A limit on the clock, where there is one, ends an operation that
waits too long: at the limit it is polled once more, and it ends if it still waits.
-/

namespace RpcConformance

/-- A cancellation signal. All clones of a scope share one. -/
abbrev Token := Nat

/-- What a poll can see: the clock, and the signals that have been given. -/
structure Moment where
  now : Instant
  cancelled : List Token
deriving DecidableEq

namespace Moment

/-- The start of a run, before any signal. -/
def start : Moment := ⟨.start, []⟩

def isCancelled (m : Moment) (t : Token) : Bool := m.cancelled.contains t

/-- Gives a signal. -/
def cancel (m : Moment) (t : Token) : Moment := { m with cancelled := t :: m.cancelled }

end Moment

/-- A world with a clock and signals. -/
class Timeline (W : Type) where
  moment : W → Moment

instance : Timeline Moment := ⟨id⟩

/-- What a poll gives: an answer, or the state in which the operation waits. -/
inductive Turn (σ α : Type)
  | ready (answer : α)
  | waiting (state : σ)

/-- An operation with states `σ` and answers `α` in a world `W`. -/
structure Operation (W σ α : Type) where
  /-- One poll. -/
  turn : σ → W → Turn σ α × W
  /-- The due time of the earliest timer that a waiting operation has set. A timer that has
  fired stands for work that can go on at once. -/
  alarm : σ → W → Option Instant

/-- A world whose other tasks take turns and set timers, and whose clock can be moved. -/
class Scheduler (W : Type) extends Timeline W where
  /-- Every other task goes on as far as it can at the present instant. -/
  settle : W → W
  /-- The due time of the earliest timer of another task. -/
  alarm : W → Option Instant
  /-- A bound on how many timers of other tasks can still fire. -/
  timers : W → Nat
  /-- Moves the clock. -/
  moveTo : Instant → W → W

/-- How a run ended: with an answer, or still waiting. -/
inductive Outcome (α : Type)
  | answered (a : α)
  | unfinished

/-- The answer, if there is one. -/
def Outcome.toOption {α : Type} : Outcome α → Option α
  | answered a => some a
  | unfinished => none

namespace Operation

variable {W σ α : Type} [Scheduler W]

/-- The limit has been reached. -/
def isOver (limit : Option Instant) (w : W) : Bool :=
  limit.any fun l => Instant.fired l (Timeline.moment w).now

/-- Polls, lets the other tasks go on, and polls again; at the limit, polls only once. -/
def round (op : Operation W σ α) (limit : Option Instant) (s : σ) (w : W) : Turn σ α × W :=
  match op.turn s w with
  | (.ready a, w) => (.ready a, w)
  | (.waiting s, w) =>
    if isOver limit w then (.waiting s, w) else op.turn s (Scheduler.settle w)

/-- The jump of the clock to the earliest timer, with whether it leads to one: without a timer
there is no jump, and the limit stops a jump that would pass it. -/
def jump (op : Operation W σ α) (limit : Option Instant) (s : σ) (w : W) : Bool × W :=
  let now := (Timeline.moment w).now
  match Instant.earliest (op.alarm s w) (Scheduler.alarm w), limit with
  | none, none => (false, w)
  | none, some l => (false, Scheduler.moveTo (now.jumpTo l) w)
  | some due, none => (true, Scheduler.moveTo (now.jumpTo due) w)
  | some due, some l =>
    if Instant.fired l now then (false, w)
    else if due.tick ≤ l.tick then (true, Scheduler.moveTo (now.jumpTo due) w)
    else (false, Scheduler.moveTo (now.jumpTo l) w)

/-- Goes from jump to jump until the answer. The fuel bounds the number of jumps. -/
def wait (op : Operation W σ α) (limit : Option Instant) : Nat → σ → W → Outcome α × W
  | 0, _, w => (.unfinished, w)
  | fuel + 1, s, w =>
    match op.jump limit s w with
    | (false, w) => (.unfinished, w)
    | (true, w) =>
      match op.round limit s w with
      | (.ready a, w) => (.answered a, w)
      | (.waiting s, w) => op.wait limit fuel s w

/-- Runs an operation that sets at most `own` timers. -/
def run (op : Operation W σ α) (limit : Option Instant) (own : Nat) (s : σ) (w : W) :
    Outcome α × W :=
  match op.round limit s w with
  | (.ready a, w) => (.answered a, w)
  | (.waiting s, w) => op.wait limit (own + Scheduler.timers w) s w

end Operation

/-- The states of a pause: not begun, or waiting for a timer. -/
inductive Pause
  | fresh (length : Duration)
  | until (due : Instant)

/-- Waits for a time. The timer is set by the first poll. -/
def Pause.operation {W : Type} [Timeline W] : Operation W Pause Unit where
  turn s w :=
    let now := (Timeline.moment w).now
    let due := match s with
      | .fresh d => now.later d
      | .until due => due
    (if Instant.fired due now then .ready () else .waiting (.until due), w)
  alarm s _ :=
    match s with
    | .fresh _ => none
    | .until due => some due

end RpcConformance
