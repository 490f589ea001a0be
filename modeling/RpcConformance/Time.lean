import RpcConformance.Word

/-!
# Durations, instants and timers

Time is counted in whole nanoseconds from the start of a run. A timer is coarser than the
clock: it fires at the first whole millisecond at or after its due time, and when everything
waits the clock jumps to the earliest such millisecond. The jump keeps the part of the
present instant below a millisecond, since it is counted in whole ticks from the last tick
that has passed.
-/

namespace RpcConformance

/-- A length of time in whole nanoseconds. -/
structure Duration where
  nanos : Nat
deriving DecidableEq, Inhabited

namespace Duration

def ofSecs (n : Nat) : Duration := ⟨n * 1000000000⟩
def ofMillis (n : Nat) : Duration := ⟨n * 1000000⟩
def ofMicros (n : Nat) : Duration := ⟨n * 1000⟩
def ofNanos (n : Nat) : Duration := ⟨n⟩

/-- Whole seconds. -/
def secs (d : Duration) : Nat := d.nanos / 1000000000

/-- Whole milliseconds. -/
def millis (d : Duration) : Nat := d.nanos / 1000000

instance : LE Duration := ⟨fun a b => a.nanos ≤ b.nanos⟩
instance (a b : Duration) : Decidable (a ≤ b) := inferInstanceAs (Decidable (a.nanos ≤ b.nanos))
instance : LT Duration := ⟨fun a b => a.nanos < b.nanos⟩
instance (a b : Duration) : Decidable (a < b) := inferInstanceAs (Decidable (a.nanos < b.nanos))
instance : Add Duration := ⟨fun a b => ⟨a.nanos + b.nanos⟩⟩

end Duration

/-- A point in time, in whole nanoseconds since the start of the run. -/
structure Instant where
  nanos : Nat
deriving DecidableEq, Inhabited

namespace Instant

/-- The start of the run. -/
def start : Instant := ⟨0⟩

instance : LE Instant := ⟨fun a b => a.nanos ≤ b.nanos⟩
instance (a b : Instant) : Decidable (a ≤ b) := inferInstanceAs (Decidable (a.nanos ≤ b.nanos))
instance : LT Instant := ⟨fun a b => a.nanos < b.nanos⟩
instance (a b : Instant) : Decidable (a < b) := inferInstanceAs (Decidable (a.nanos < b.nanos))

/-- The instant `d` later. -/
def later (t : Instant) (d : Duration) : Instant := ⟨t.nanos + d.nanos⟩

/-- Time from `earlier` to `t`; zero when `earlier` is not earlier. -/
def since (t earlier : Instant) : Duration := ⟨t.nanos - earlier.nanos⟩

/-- Instants hold a signed count of 64 bits of seconds, and the last of them is not used. -/
def secondsLimit : Nat := powerOfTwo 63 - 1

/-- The instant `d` later, unless it lies past the last one that can be represented. -/
def later? (t : Instant) (d : Duration) : Option Instant :=
  let sum := t.later d
  if sum.nanos / 1000000000 < secondsLimit then some sum else none

/-- Whole milliseconds that have passed. -/
def millis (t : Instant) : Nat := t.nanos / 1000000

/-- The millisecond at which a timer due at `t` fires: the first one at or after it. -/
def tick (t : Instant) : Nat := if t.nanos % 1000000 = 0 then t.millis else t.millis + 1

/-- A timer due at `due` has fired at `now`. -/
def fired (due now : Instant) : Bool := due.tick ≤ now.millis

/-- The clock after it jumped to the tick of a timer; it stays where the timer has fired. -/
def jumpTo (now due : Instant) : Instant := ⟨now.nanos + (due.tick - now.millis) * 1000000⟩

/-- The earlier of two optional due times. -/
def earliest : Option Instant → Option Instant → Option Instant
  | none, b => b
  | a, none => a
  | some a, some b => some (if b < a then b else a)

/-- A timer has fired when it was due by the last whole millisecond. -/
theorem fired_iff {due now : Instant} :
    fired due now = true ↔ due.nanos ≤ now.nanos / 1000000 * 1000000 := by
  have htick : fired due now = true ↔ due.tick ≤ now.millis := decide_eq_true_iff
  rw [htick]
  simp only [tick, millis]
  split <;> omega

/-- A jump to a timer makes it fire. -/
theorem fired_jumpTo (now due : Instant) : fired due (now.jumpTo due) = true := by
  rw [fired_iff]
  simp only [jumpTo, tick, millis]
  split <;> omega

/-- A timer never fires before it is due. -/
theorem le_of_fired {due now : Instant} (h : fired due now = true) : due ≤ now := by
  have hdue := fired_iff.mp h
  show due.nanos ≤ now.nanos
  omega

end Instant

end RpcConformance
