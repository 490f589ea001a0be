import RpcConformance.Histogram
import RpcConformance.Scenario.SingleResponses

/-!
# The soak scenario

Large calls are repeated within an overall deadline. An iteration fails if its call fails or
takes longer than it may; the time to build a new client does not count. The scenario passes
if all iterations were run and no more of them failed than may.
-/

namespace RpcConformance.Scenarios

open ScenarioM

/-- The counters of a soak. -/
structure SoakState where
  done : Nat
  failures : Nat
  histogram : Histogram
deriving DecidableEq

namespace SoakState

/-- Nothing has been run. The histogram has twenty buckets of a millisecond. -/
def start : SoakState := ⟨0, 0, Histogram.linear 20 1 0⟩

end SoakState

/-- How an iteration ended. -/
inductive IterationResult
  | succeeded
  | tooSlow
  | failed (reason : String)
deriving DecidableEq

/-- The result of an iteration: a call that failed, or one that took longer than it may. -/
def iterationResult (config : SoakPlan) (r : Except String Unit) (elapsed : Duration) :
    IterationResult :=
  match r with
  | .error reason => .failed reason
  | .ok () => if config.maxLatency < elapsed then .tooSlow else .succeeded

/-- A latency in whole milliseconds, of at most 64 bits. -/
def latencyMillis (elapsed : Duration) : Nat := min elapsed.millis (wordLimit - 1)

/-- Counts an iteration. -/
def SoakState.count (s : SoakState) (result : IterationResult) (elapsed : Duration) :
    SoakState :=
  ⟨s.done + 1, s.failures + (if result = .succeeded then 0 else 1),
    s.histogram.add (latencyMillis elapsed)⟩

/-- What is logged for an iteration. -/
def iterationLine (config : SoakPlan) (number : Nat) (result : IterationResult)
    (elapsed : Duration) : String :=
  "soak iteration: " ++ Decimal.text number ++ " elapsed_ms: "
    ++ Decimal.text (latencyMillis elapsed) ++
    match result with
    | .succeeded => " succeeded"
    | .tooSlow => " exceeds max acceptable latency: " ++ Decimal.text config.maxLatency.millis
    | .failed reason => " failed: " ++ reason

/-- What is logged for the whole soak. -/
def soakLine (config : SoakPlan) (s : SoakState) (histogram : String) : String :=
  "soak test ran: " ++ Decimal.text s.done ++ " / " ++ Decimal.text config.iterations
    ++ " iterations. total failures: " ++ Decimal.text s.failures
    ++ ". max failures threshold: " ++ Decimal.text config.maxFailures
    ++ ". See histogram below for details.\n" ++ histogram

variable {ρ : Type}

/-- One large call, whose failure is given and not reported. -/
def soakCall (client : Client) (sizes : Sizes) (scope : Scope) :
    ScenarioM ρ (Except String Unit) :=
  match largeRequestOf sizes with
  | .error e => pure (.error e.message)
  | .ok request => do
    let r ← unary client .test (.unaryCall request) ⟨.empty, scope⟩
    match r with
    | .error s => return .error s.describe
    | .ok response =>
      let received := payloadLength response.message.toSimple.payload
      if received = wordSize sizes.largeResponse then return .ok ()
      else
        return .error ("response payload length: got " ++ Decimal.text received ++ ", want "
          ++ Decimal.signedText sizes.largeResponse)

variable [Reporter ρ]

/-- A client with a new connection. -/
def newChannel (client : Client) : ScenarioM ρ Client := do
  let r ← onSession client.reconnect
  match r with
  | .ok client => pure client
  | .error e => fatal ("couldn't create a new channel: " ++ e)

/-- The client of an iteration: that of the context, or a new one from the given procedure. -/
def iterationClient (c : Context) (channel : ScenarioM ρ Client) : ScenarioM ρ Client :=
  if c.soak.resetChannel then channel else pure c.client

/-- Runs iterations until all are done or the deadline is reached. The last but one argument
counts the iterations that are left. -/
def soakLoop (c : Context) (channel : ScenarioM ρ Client) (deadline : Instant) :
    Nat → SoakState → ScenarioM ρ SoakState
  | 0, s => pure s
  | left + 1, s => do
    let t ← now
    if deadline ≤ t then pure s
    else
      let client ← iterationClient c channel
      let begun ← now
      let scope ← newScope (some deadline)
      let r ← soakCall client c.sizes scope
      let ended ← now
      let elapsed := ended.since begun
      let result := iterationResult c.soak r elapsed
      log (iterationLine c.soak s.done result elapsed)
      soakLoop c channel deadline left (s.count result elapsed)

/-- Runs the iterations with the given way to new clients, and checks the counters. -/
def soakThrough (c : Context) (channel : ScenarioM ρ Client) : ScenarioM ρ Unit := do
  let t ← now
  match t.later? c.soak.overallTimeout with
  | none => halt (.crashed .instant)
  | some deadline =>
    let s ← soakLoop c channel deadline c.soak.iterations .start
    let histogram ← checked s.histogram.render
    log (soakLine c.soak s histogram)
    check (c.soak.iterations ≤ s.done)
      ("soak test consumed all " ++ Decimal.text c.soak.overallTimeout.secs
        ++ "s of time and quit early, only ran " ++ Decimal.text s.done ++ " of "
        ++ Decimal.text c.soak.iterations ++ " iterations")
    check (s.failures ≤ c.soak.maxFailures)
      ("soak test total failures: " ++ Decimal.text s.failures
        ++ " exceeds max failures threshold: " ++ Decimal.text c.soak.maxFailures)
    success "successful soak"

/-- The soak, with new connections of the client. -/
def soak (c : Context) : ScenarioM ρ Unit := soakThrough c (newChannel c.client)

end RpcConformance.Scenarios
