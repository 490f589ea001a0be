import RpcConformance.Overflow
import RpcConformance.Scope

/-!
# Histories of scopes

A board holds the scopes that have been created, in order, with the clock and the signals
given so far. Actions create, clone, cancel and question scopes, move the clock, and run
guarded operations. A clone has the token of the scope it is cloned from, and every other new
scope has a token of its own.
-/

namespace RpcConformance

/-- A step of an operation: it waits, gives a signal, lets other tasks go first, or waits
forever. -/
inductive Step
  | pause (p : Pause)
  | cancel (scope : Nat)
  | yield
  | pending

/-- The scopes so far, the moment, and the first token that has not been used. -/
structure Board where
  moment : Moment
  scopes : List Scope
  nextToken : Token

namespace Board

/-- Nothing has happened. -/
def start : Board := ⟨.start, [], 0⟩

instance : Scheduler Board where
  moment b := b.moment
  settle b := b
  alarm _ := none
  timers _ := 0
  moveTo t b := { b with moment := { b.moment with now := t } }

/-- Adds a scope. -/
def add (b : Board) (s : Scope) : Board := { b with scopes := b.scopes ++ [s] }

/-- Adds a scope with a token of its own. -/
def create (b : Board) (deadline : Option Instant) : Board :=
  { b with scopes := b.scopes ++ [⟨deadline, b.nextToken⟩], nextToken := b.nextToken + 1 }

/-- Gives the signal of a scope; there may be no scope of that number. -/
def cancel (b : Board) (scope : Nat) : Board :=
  match b.scopes[scope]? with
  | some s => { b with moment := b.moment.cancel s.token }
  | none => b

end Board

namespace Step

/-- Takes steps until one waits or all are done. A step that waited is first in the state; one
that lets others go first waits for a timer that has fired. -/
def play (result : Except Status Unit) :
    List Step → Board → Turn (List Step) (Except Status Unit) × Board
  | [], b => (.ready result, b)
  | pause p :: rest, b =>
    match Pause.operation.turn p b with
    | (.ready (), b) => play result rest b
    | (.waiting p, b) => (.waiting (pause p :: rest), b)
  | cancel scope :: rest, b => play result rest (b.cancel scope)
  | yield :: rest, b => (.waiting (pause (.until .start) :: rest), b)
  | pending :: rest, b => (.waiting (pending :: rest), b)

/-- The operation that takes steps and then ends with the given result. -/
def operation (result : Except Status Unit) :
    Operation Board (List Step) (Except Status Unit) where
  turn := play result
  alarm steps b :=
    match steps with
    | pause p :: _ => Pause.operation.alarm p b
    | _ => none

end Step

/-- What may be done with scopes. -/
inductive Action
  | new
  | timeout (d : Duration)
  /-- A scope with a deadline counted from the start. -/
  | deadlineAt (d : Duration)
  /-- The scope of an incoming call with the given timeout headers. -/
  | ofHeaders (values : List HeaderValue)
  | clone (scope : Nat)
  | cancel (scope : Nat)
  | advance (d : Duration)
  | isCancelled (scope : Nat)
  | isExpired (scope : Nat)
  | remaining (scope : Nat)
  | deadline (scope : Nat)
  | check (scope : Nat)
  | sleep (scope : Nat) (d : Duration)
  | guard (scope : Nat) (steps : List Step) (result : Except Status Unit)

/-- What an action answers. -/
inductive Answer
  | created (scope : Nat)
  | accepted (scope : Nat) (deadline : Option Instant)
  | done
  | flag (b : Bool)
  | remaining (d : Option Duration)
  | deadline (t : Option Instant)
  | result (r : Except Status Unit)
  /-- The operation still waits after the longest time that is waited for one. -/
  | hangs

namespace Board

/-- The longest time that one operation is waited for. -/
def patience : Duration := .ofSecs 1000000

/-- Runs an operation that makes at most `steps` pauses. -/
def run {σ : Type} (b : Board) (steps : Nat) (op : Operation Board σ (Except Status Unit))
    (state : σ) : Answer × Board :=
  match op.run (some (b.moment.now.later patience)) (steps + 2) state b with
  | (.answered r, b) => (.result r, b)
  | (.unfinished, b) => (.hangs, b)

/-- Adds a scope whose deadline is `d` after an instant. -/
def createLater (b : Board) (t : Instant) (d : Duration) : Except Overflow Board :=
  match t.later? d with
  | some deadline => .ok (b.create (some deadline))
  | none => .error .instant

/-- Answers a question about a scope; a scope that does not exist answers like a new one. -/
def ask (b : Board) (scope : Nat) (question : Scope → Answer) : Answer :=
  question (b.scopes.getD scope ⟨none, b.nextToken⟩)

/-- Performs an action; it stops where a deadline would be no instant. -/
def perform (b : Board) : Action → Except Overflow (Answer × Board)
  | .new => .ok (.created b.scopes.length, b.create none)
  | .timeout d => do
    let after ← b.createLater b.moment.now d
    return (.created b.scopes.length, after)
  | .deadlineAt d => do
    let after ← b.createLater .start d
    return (.created b.scopes.length, after)
  | .ofHeaders values => do
    let md := Metadata.empty.appendAll Timeout.header values
    let after ← match Scope.announced md with
      | some d => b.createLater b.moment.now d
      | none => .ok (b.create none)
    return (.accepted b.scopes.length (after.scopes.getLast?.bind (·.deadline)), after)
  | .clone scope =>
    .ok (.created b.scopes.length, b.add (b.scopes.getD scope ⟨none, b.nextToken⟩))
  | .cancel scope => .ok (.done, b.cancel scope)
  | .advance d =>
    match b.moment.now.later? d with
    | some t => .ok (.done, Scheduler.moveTo t b)
    | none => .error .instant
  | .isCancelled scope => .ok (b.ask scope fun s => .flag (s.isCancelled b.moment), b)
  | .isExpired scope => .ok (b.ask scope fun s => .flag (s.isExpired b.moment), b)
  | .remaining scope => .ok (b.ask scope fun s => .remaining (s.remaining b.moment), b)
  | .deadline scope => .ok (b.ask scope fun s => .deadline s.deadline, b)
  | .check scope => .ok (b.ask scope fun s => .result (s.check b.moment), b)
  | .sleep scope d =>
    let s := b.scopes.getD scope ⟨none, b.nextToken⟩
    .ok (b.run 1 s.sleep (.fresh (.fresh d)))
  | .guard scope steps result =>
    let s := b.scopes.getD scope ⟨none, b.nextToken⟩
    .ok (b.run steps.length (s.guard (Step.operation result)) (.fresh steps))

/-- Performs actions in order, and gives each answer with the instant after it. -/
def performAll (b : Board) : List Action → Except Overflow (List (Answer × Instant))
  | [] => .ok []
  | a :: rest => do
    let (answer, after) ← b.perform a
    let answers ← after.performAll rest
    return ((answer, after.moment.now) :: answers)

end Board

end RpcConformance
