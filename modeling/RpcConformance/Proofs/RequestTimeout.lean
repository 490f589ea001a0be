import RpcConformance.Client.Basic
import RpcConformance.Proofs.TimeoutCodec

/-!
# The timeout of a request

A request with a deadline carries the time that is left until then as a header.  What is written
for a timeout can always be a header value, so no call fails for want of one: preparing a call
always gives its metadata, and the calls of a client are what they are for these metadata.

## Main results

* `CallOptions.request_eq` — the options never refuse a call.
* `Client.unary_eq`, `Client.openCall_eq`, `Client.clientStreaming_eq` — the calls of a client.
* `Timeout.encode_only_shortens` — what becomes of a duration that is written and read.
-/

namespace RpcConformance

namespace CallOptions

/-- The metadata that are sent, where nothing refuses them. -/
def requestMetadata (o : CallOptions) (m : Moment) : Metadata :=
  match o.scope.remaining m with
  | some left => o.metadata.insert Timeout.header (.ofText (Timeout.encode left))
  | none => o.metadata

/-- **The options never refuse a call.** -/
theorem request_eq (o : CallOptions) (m : Moment) : o.request m = .ok (o.requestMetadata m) := by
  unfold request requestMetadata
  cases o.scope.remaining m with
  | none => rfl
  | some left =>
      dsimp only
      rw [Timeout.ofAscii_encode]

end CallOptions

namespace Client

variable (c : Client) (service : ServiceName) (invocation : Invocation) (o : CallOptions)
  (s : Session)

/-- The call of a method with options. -/
def spec : CallSpec :=
  ⟨service, invocation, o.requestMetadata s.moment, c.target.compression, c.reachable⟩

theorem prepare_eq : c.prepare service invocation o s = .ok (c.spec service invocation o s) := by
  rw [prepare, CallOptions.request_eq]
  rfl

theorem unary_eq : c.unary service invocation o s =
    if c.reachable then
      let id := s.slots.length
      let (r, s) :=
        s.run (o.scope.guard unaryOperation) (.fresh (.unsent (c.spec service invocation o s)))
      (r, (s.abandon id).delay)
    else s.run (o.scope.guard failing) (.fresh ()) := by
  rw [unary, prepare_eq]

theorem openCall_eq : c.openCall service invocation o s =
    if c.reachable then
      let id := s.slots.length
      let opening := OpenState.unsent (c.spec service invocation o s)
      match s.run (o.scope.guard openOperation) (.fresh opening) with
      | (.unfinished, s) => (.unfinished, s)
      | (.answered (.error st), s) => (.answered (.error st), s.abandon id)
      | (.answered (.ok (id, headers)), s) =>
        (.answered (.ok (id, Responses.opened id headers)), s)
    else s.run (o.scope.guard failing) (.fresh ()) := by
  rewrite [openCall, prepare_eq]
  rfl

/-- A stream of requests can always be opened. -/
theorem clientStreaming_eq : c.clientStreaming o s =
    (.ok ⟨some s.slots.length, s.slots.length, o.scope⟩,
      (s.enqueue (c.spec .test .streamingInputCall o s)).2) := by
  rw [clientStreaming, prepare_eq]
  rfl

end Client

namespace Timeout

/-- **Writing a timeout only shortens it, and by almost nothing.**  What is written is one to eight
digits and the letter of a unit, and it is read as a duration that is not longer.  Below a hundred
million hours at most a hundred-thousandth is lost, from there on the largest count of hours is
left, and a duration that any text at all is read as is kept as it is.  No call is refused because
its timeout cannot be written. -/
theorem encode_only_shortens (d : Duration) :
    (∃ digits unit, Spells (encode d) digits unit) ∧
    (∃ e, parse (encode d) = some e ∧ e ≤ d ∧
      (d < hours 100000000 → 100000 * (d.nanos - e.nanos) ≤ d.nanos) ∧
      (∀ s, parse s = some d → e = d) ∧
      (hours 100000000 ≤ d → e = hours 99999999)) ∧
    (∀ (o : CallOptions) (m : Moment), ∃ md, o.request m = .ok md) := by
  have hkept : ∀ s, parse s = some d → written d = d := by
    intro s hs
    obtain ⟨n, u, hn, rfl⟩ := counts_of_parse hs
    exact written_of_fits hn
  refine ⟨⟨_, _, spells_encode d⟩, ?_, fun o m => ⟨_, o.request_eq m⟩⟩
  exact ⟨written d, parse_encode d, written_le d, written_close, hkept, written_of_long⟩

end Timeout

end RpcConformance
