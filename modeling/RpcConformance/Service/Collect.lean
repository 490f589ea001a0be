import RpcConformance.Service.Inbox

/-!
# Reading a whole request stream

A service that answers only after the end of its input reads request by request, each read
guarded by the scope of the call, and folds what it reads.
-/

namespace RpcConformance

/-- What has been collected, and the state of the present read. -/
structure Collected (σ : Type) where
  soFar : σ
  reading : Scope.Guarded Unit

namespace Collected

/-- Nothing has been read. -/
def start {σ : Type} (s : σ) : Collected σ := ⟨s, .fresh ()⟩

variable {ρ σ : Type}

/-- Reads until the end, a failure or a wait; each round reads a request. -/
def turnWithin (scope : Scope) (step : σ → ρ → σ) :
    Nat → Collected σ → Seat ρ → Turn (Collected σ) (Except Status σ) × Seat ρ
  | 0, c, w => (.waiting c, w)
  | fuel + 1, c, w =>
    match (scope.guard Inbox.next).turn c.reading w with
    | (.waiting reading, w) => (.waiting ⟨c.soFar, reading⟩, w)
    | (.ready (.error st), w) => (.ready (.error st), w)
    | (.ready (.ok none), w) => (.ready (.ok c.soFar), w)
    | (.ready (.ok (some r)), w) => turnWithin scope step fuel (.start (step c.soFar r)) w

/-- The operation that reads a whole request stream. -/
def operation (scope : Scope) (step : σ → ρ → σ) :
    Operation (Seat ρ) (Collected σ) (Except Status σ) where
  turn c w := turnWithin scope step (w.inbox.arrivals.length + 1) c w
  alarm c w := (scope.guard (Inbox.next (ρ := ρ))).alarm c.reading w

end Collected

end RpcConformance
