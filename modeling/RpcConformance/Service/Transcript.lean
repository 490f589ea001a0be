import RpcConformance.Service.Reference

/-!
# What one call of the service gives

A call of one method by itself, without a transport: its single response or its refusal, or
the items of its stream, each with the instant at which it came.
-/

namespace RpcConformance

/-- The input of a call, by the type of its requests. -/
structure CallInput where
  invocation : Invocation
  sums : List (Arrival StreamingInputRequest) := []
  outputs : List (Arrival StreamingOutputRequest) := []

/-- What a call gave. -/
inductive Transcript
  /-- A response of its own, or none. -/
  | single (result : Except Status (Response Reply)) (at_ : Instant)
  /-- A stream that was opened, with the items that were read. -/
  | stream (opened : Response Unit) (items : List (Item × Instant))
  /-- The call waits forever. -/
  | stuck

namespace ReferenceServer

/-- Reads up to so many items of a stream, and no further than its end. -/
def readItems : Nat → ResponseStream → Seat StreamingOutputRequest → List (Item × Instant)
  | 0, _, _ => []
  | count + 1, s, w =>
    match ResponseStream.next.run none 3 s w with
    | (.unfinished, _) => []
    | (.answered (item, s), w) =>
      (item, w.moment.now) :: if item = .finished then [] else readItems count s w

/-- How many items the responses to some requests can have. -/
def itemBound : List (Arrival StreamingOutputRequest) → Nat
  | [] => 0
  | .message r :: rest => r.parameters.length + itemBound rest
  | _ :: rest => itemBound rest

/-- How many items a stream can have besides those of the requests to come, its failure and
its end. -/
def streamBound : ResponseStream → Nat
  | .output s => s.parameters.length + 2
  | _ => 2

/-- Calls a method at the start of a run, and reads its stream to the end or up to a limit. -/
def transcript (server : ReferenceServer) (md : Metadata) (input : CallInput)
    (limit : Option Nat) : Transcript :=
  match server.handle input.invocation md .start 0 with
  | .answered r => .single (.ok r) .start
  | .refused s => .single (.error s) .start
  | .summing scope =>
    let sums := input.sums.map (·.limited StreamingInputRequest.encodedLength)
    match (sum scope).run none 2 (.start 0) ⟨.start, ⟨sums, true⟩⟩ with
    | (.unfinished, _) => .stuck
    | (.answered r, w) =>
      .single ((r.bind aggregate).map fun reply => ⟨reply, .empty, none⟩) w.moment.now
  | .streaming r =>
    let outputs := input.outputs.map (·.limited StreamingOutputRequest.encodedLength)
    .stream ⟨(), r.headers, r.pendingTrailers⟩
      (readItems (limit.getD (itemBound outputs + streamBound r.message)) r.message
        ⟨.start, ⟨outputs, true⟩⟩)

end ReferenceServer

end RpcConformance
