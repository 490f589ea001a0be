import RpcConformance.Call.Event
import RpcConformance.Service.Reference
import RpcConformance.Wire.Length

/-!
# Reading a response

A client reads the parts of a response as what its method promises. A status among the headers
settles the call before its end: a failure refuses the call, and after a success the status of
the trailers no longer counts. A message that is too long ends the call, and so does one that
does not fit the type of the method, or a compression that the client does not know.
-/

namespace RpcConformance

/-! ## Messages of another type

A payload and an aggregated size are both the first field of their messages, so a message that
has one of them cannot be read as one that has the other. All further fields are of no concern
to a type that does not have them.
-/

/-- The payload in a message, of a type whose first field is a payload with a given name. -/
def Reply.readPayload (field : String) : Reply → Except Wire.DecodeError (Option Payload)
  | .aggregate n =>
    if n = 0 then .ok none else .error ⟨[field], .mismatch .varint .lengthDelimited⟩
  | r => .ok r.payload

/-- A message read as a single response with a payload. -/
def Reply.readSimple (r : Reply) : Except Wire.DecodeError Reply :=
  (r.readPayload "SimpleResponse.payload").map fun p => .simple { r.toSimple with payload := p }

/-- A message read as one of many responses. -/
def Reply.readOutput (r : Reply) : Except Wire.DecodeError Reply :=
  (r.readPayload "StreamingOutputCallResponse.payload").map .output

/-- A message read as an aggregated size. -/
def Reply.readAggregate (r : Reply) : Except Wire.DecodeError Reply :=
  match r.payload with
  | some _ =>
    .error ⟨["StreamingInputCallResponse.aggregated_payload_size"],
      .mismatch .lengthDelimited .varint⟩
  | none => .ok (.aggregate r.toAggregate)

/-- A message read as one of the method's own type. -/
def Invocation.read : Invocation → Reply → Except Wire.DecodeError Reply
  | .emptyCall, _ => .ok .empty
  | .unimplementedCall, _ => .ok .empty
  | .unimplementedStreamingOutputCall, _ => .ok .empty
  | .unaryCall _, r => r.readSimple
  | .failUnaryCall _, r => r.readSimple
  | .cacheableUnaryCall _, r => r.readSimple
  | .streamingInputCall, r => r.readAggregate
  | .streamingOutputCall _, r => r.readOutput
  | .failStreamingOutputCall _, r => r.readOutput
  | .fullDuplexCall, r => r.readOutput
  | .halfDuplexCall, r => r.readOutput

/-! ## Parts -/

/-- How a client reads the response to one call. -/
structure Reception where
  invocation : Invocation
  /-- Messages travel compressed, which leaves none of them too long. -/
  compressed : Bool
  /-- The headers have had a status. -/
  settled : Bool := false

namespace Reception

/-- What a client learns from a part. -/
def events (r : Reception) : ResponsePart → List Event
  | .headers md =>
    match Status.unreadable? r.compressed md, Status.ofHeaders? md with
    | some s, _ => [.ended s]
    | none, some s => if s.code = .ok then [.opened md] else [.ended s]
    | none, none => [.opened md]
  | .message m =>
    if !r.compressed && maxMessageLength < m.encodedLength then
      [.ended (tooLong m.encodedLength)]
    else
      match r.invocation.read m with
      | .ok m => [.message m]
      | .error e => [.ended (.internal e.message)]
  | .trailers s =>
    if r.settled then [.ended { Status.success with metadata := s.metadata }]
    else [.ended s.delivered]
  | .refusal s =>
    let s := s.delivered
    if s.code = .ok then [.opened s.metadata, .ended .success] else [.ended s]

/-- How the parts after a part are read. -/
def after (r : Reception) : ResponsePart → Reception
  | .headers md => { r with settled := (Status.ofHeaders? md).isSome }
  | _ => r

end Reception

end RpcConformance
