import RpcConformance.Proofs.ForetoldStreams
import RpcConformance.Proofs.StreamingInput

/-!
# Plain calls to the reference server

A plain call has no metadata, and a scope that nothing triggers.  The reference server answers it
with empty headers and trailers, and its clock on the side of the server never matters.  So what the
client learns is decided by the request alone.

## Main results

* `Client.unary_plain` — a call with one request and one response.
* `Session.accept_output`, `Session.accept_failing`, `Session.accept_fullDuplex`,
  `Session.accept_halfDuplex` — how the server begins with a stream of responses.
* `Reception.itemEvents_responses` — what a client learns from such a stream.
* `ClientStream.closeAndReceive_plain` — the answer to a stream of requests.
-/

namespace RpcConformance

/-- Options without metadata, in a scope that nothing has triggered. -/
structure CallOptions.Plain (o : CallOptions) (s : Session) : Prop where
  metadata : o.metadata = .empty
  idle : o.scope.Idle s

theorem CallOptions.Plain.request {o : CallOptions} {s : Session} (h : o.Plain s) (m : Moment) :
    o.requestMetadata m = .empty := by
  have hremaining : o.scope.remaining m = none := by
    rw [Scope.remaining, h.idle.unlimited]
    rfl
  rw [CallOptions.requestMetadata, hremaining]
  exact h.metadata

section Calls

variable {server : ReferenceServer} {c : Client} {invocation : Invocation} {o : CallOptions}
  {s : Session}

/-- How the reference server begins with a plain call whose request it can read. -/
theorem Session.accept_plain (hserver : s.server = .reference server) (ho : o.Plain s)
    (hlength : c.target.compression = true ∨ invocation.requestLength ≤ maxMessageLength) :
    (s.accept (c.spec .test invocation o s)).1 =
      ⟨if (c.spec .test invocation o s).isOpenEnded then
          Peer.ofHandling .empty .empty (server.handle invocation .empty s.moment.now 0)
        else Peer.ofHandling .none .none (server.handle invocation .empty s.moment.now 0),
        ⟨invocation, c.target.compression, false⟩, [], 0⟩ := by
  simp only [Session.accept, hserver, Backend.accept, Client.spec, not_overlong hlength,
    ho.request]
  rfl

/-! ## Single responses -/

/-- **What a client learns from the responses of a stream.** -/
theorem Reception.itemEvents_responses {r : Reception}
    (hread : ∀ m, r.invocation.read m = m.readOutput) {payloads : List Payload}
    (hfits : ∀ p ∈ payloads, (Reply.output (some p)).encodedLength ≤ maxMessageLength) :
    r.itemEvents (payloads.map .response) = payloads.map fun p => .message (.output (some p)) := by
  induction payloads with
  | nil => rfl
  | cons p rest ih =>
      have hfirst : r.events (Item.part none (.response p)) =
          [.message (.output (some p))] :=
        events_short (hread _) (Or.inr (hfits p List.mem_cons_self))
      have hrest := ih fun q hq => hfits q (List.mem_cons_of_mem p hq)
      rw [List.map_cons, List.map_cons, ← hrest, itemEvents, List.flatMap_cons, hfirst]
      rfl

theorem Reception.itemEvents_finished {r : Reception} (hsettled : r.settled = false) :
    r.itemEvents [.finished] = [.ended .success] :=
  (List.append_nil _).trans (events_success hsettled)

theorem Reception.itemEvents_failed {r : Reception} (hsettled : r.settled = false) (st : Status) :
    r.itemEvents [.failed st] = [.ended st.delivered] :=
  (List.append_nil _).trans (events_trailers hsettled _)

/-- **A plain call with a single response** gives the response that the server answers with. -/
theorem Client.unary_plain (hreachable : c.reachable = true)
    (hserver : s.server = .reference server) (ho : o.Plain s)
    (hlength : c.target.compression = true ∨ invocation.requestLength ≤ maxMessageLength)
    (hshape : (c.spec .test invocation o s).isOpenEnded = false) {m m' : Reply}
    (hhandle : server.handle invocation .empty s.moment.now 0 = .answered ⟨m, .empty, none⟩)
    (hread : invocation.read m = .ok m')
    (hfits : c.target.compression = true ∨ m.encodedLength ≤ maxMessageLength) :
    ∃ s', c.unary .test invocation o s = (.answered (.ok ⟨m', .empty, .empty⟩), s') ∧
      s.Kept s' := by
  have haccept := Session.accept_plain hserver ho hlength
  rw [hshape, hhandle] at haccept
  have hslot := s.slot_settle_begin (c.spec .test invocation o s)
  have hwaiting : ((s.accept (c.spec .test invocation o s)).1.advance s.moment.now).waiting =
      [.opened .empty, .message m', .ended .success] := by
    rw [haccept, Call.waiting_advance s.moment.now rfl]
    exact Reception.eventsOf_single (r := ⟨invocation, c.target.compression, false⟩) rfl hread hfits
  have habsorb : Single.absorb .unopened
      ((s.accept (c.spec .test invocation o s)).1.advance s.moment.now).waiting =
      .ready (.ok ⟨m', .empty, .empty⟩) := by
    rw [hwaiting]
    rfl
  have hbegun : s.Kept (s.begin (c.spec .test invocation o s)).2 := ⟨rfl, rfl, rfl⟩
  have hsettled := hbegun.trans (Session.kept_settle _)
  have hsecond : ∃ s', unaryOperation.turn
      (.sent (s.begin (c.spec .test invocation o s)).1 .unopened)
      (s.begin (c.spec .test invocation o s)).2.settle =
        (.ready (.ok ⟨m', .empty, .empty⟩), s') ∧ s'.moment = s.moment ∧ s.Kept s' := by
    simp only [unaryOperation, Single.takeAll, hslot, habsorb]
    exact ⟨_, rfl, Session.moment_settle _, hsettled.trans ⟨rfl, rfl, rfl⟩⟩
  obtain ⟨s', hturn, hmoment, hkept⟩ := hsecond
  have hrun := Operation.run_guard_of_second unaryOperation
    (.unsent (c.spec .test invocation o s)) ho.idle.untriggered rfl rfl hturn hmoment
  refine ⟨(s'.abandon s.slots.length).delay, ?_, hkept.trans ⟨rfl, rfl, rfl⟩⟩
  simp only [unary_eq, hreachable, hrun]
  rfl

/-! ## Streams of responses -/

/-- The reference server opens a stream of responses to one request. -/
theorem Session.accept_output (hserver : s.server = .reference server) (ho : o.Plain s)
    {parameters : List ResponseParameters} (hp : Answerable Payload.compressable parameters)
    (hlength : c.target.compression = true ∨
      (StreamingOutputRequest.mk Payload.compressable parameters none none).encodedLength ≤
        maxMessageLength) :
    (s.accept (c.spec .test (.streamingOutputCall ⟨Payload.compressable, parameters, none, none⟩)
      o s)).1 = ⟨.streaming (some .empty)
        (.output (OutputStream.start ⟨none, 0⟩ Payload.compressable parameters none)) .none none,
        ⟨.streamingOutputCall ⟨Payload.compressable, parameters, none, none⟩, c.target.compression,
          false⟩, [], 0⟩ := by
  rw [Session.accept_plain hserver ho hlength]
  simp only [ReferenceServer.handle, ReferenceServer.streamingOutputCall,
    admitRequest_of_answerable hp]
  rfl

/-- The same stream, with a failure behind the responses. -/
theorem Session.accept_failing (hserver : s.server = .reference server) (ho : o.Plain s)
    {parameters : List ResponseParameters} (hp : Answerable Payload.compressable parameters)
    (hlength : c.target.compression = true ∨
      (StreamingOutputRequest.mk Payload.compressable parameters none none).encodedLength ≤
        maxMessageLength) :
    (s.accept (c.spec .test
      (.failStreamingOutputCall ⟨Payload.compressable, parameters, none, none⟩) o s)).1 =
      ⟨.streaming (some .empty) (.output (OutputStream.start ⟨none, 0⟩ Payload.compressable
        parameters (some ReferenceServer.detailedFailure))) .none none,
        ⟨.failStreamingOutputCall ⟨Payload.compressable, parameters, none, none⟩,
          c.target.compression, false⟩, [], 0⟩ := by
  rw [Session.accept_plain hserver ho hlength]
  simp only [ReferenceServer.handle, ReferenceServer.failStreamingOutputCall,
    admitRequest_of_answerable hp]
  rfl

theorem Session.accept_fullDuplex (hserver : s.server = .reference server) (ho : o.Plain s) :
    (s.accept (c.spec .test .fullDuplexCall o s)).1 =
      ⟨.streaming (some .empty) (.fullDuplex (.start ⟨none, 0⟩)) .empty none,
        ⟨.fullDuplexCall, c.target.compression, false⟩, [], 0⟩ := by
  rw [Session.accept_plain hserver ho (Or.inr (Nat.zero_le _))]
  rfl

theorem Session.accept_halfDuplex (hserver : s.server = .reference server) (ho : o.Plain s) :
    (s.accept (c.spec .test .halfDuplexCall o s)).1 =
      ⟨.streaming (some .empty) (.halfDuplex (.start ⟨none, 0⟩)) .empty none,
        ⟨.halfDuplexCall, c.target.compression, false⟩, [], 0⟩ := by
  rw [Session.accept_plain hserver ho (Or.inr (Nat.zero_le _))]
  rfl

/-! ## Streams of requests -/

/-- A stream of requests whose call has not begun takes a request while there is room. -/
theorem ClientStream.send_queued {st : ClientStream} {id : CallId} {spec : CallSpec}
    {requests : List Request} (hsender : st.sender = some id) (hidle : st.scope.Idle s)
    (h : s.Holds id (.queued spec requests false)) (hroom : requests.length < Call.bufferSize)
    (q : Request) :
    ∃ s', st.send q s = (.answered (.ok ()), st, s') ∧
      s'.Holds id (.queued spec (requests ++ [q]) false) ∧ s.Kept s' := by
  have hturn : (sendOperation id q).turn () s =
      (.ready (.ok true), s.setSlot id (.queued spec (requests ++ [q]) false)) := by
    simp only [sendOperation, h.slot_eq, if_pos hroom]
  have hrun := Operation.run_guard_of_first (sendOperation id q) () hidle.untriggered hturn rfl
  refine ⟨s.setSlot id (.queued spec (requests ++ [q]) false), ?_, h.setSlot _, rfl, rfl, rfl⟩
  simp only [send, hsender, hrun]

/-- **A plain stream of requests is answered** as its requests deserve. -/
theorem ClientStream.closeAndReceive_plain {st : ClientStream} {spec : CallSpec}
    {requests : List Request} (hserver : s.server = .reference server)
    (hsender : st.sender = some st.call) (hidle : st.scope.Idle s)
    (h : s.Holds st.call (.queued spec requests false)) (hservice : spec.service = .test)
    (hinvocation : spec.invocation = .streamingInputCall) (hconnected : spec.connected = true)
    (hannounced : Scope.announced spec.metadata = none) :
    ∃ s', st.closeAndReceive s = (.answered (answerTo spec.compressed requests), s') ∧
      s.Kept s' := by
  have hclosing : st.closing s = s.setSlot st.call (.queued spec requests true) := by
    simp only [closing, hsender, Session.close, h.slot_eq]
  have hclosed : (st.closing s).slot st.call = .queued spec requests true := by
    rw [hclosing, (h.setSlot _).slot_eq]
  have hkept : s.Kept (st.closing s) := by
    rw [hclosing]
    exact ⟨rfl, rfl, rfl⟩
  have hmoment : (st.closing s).moment = s.moment := st.moment_closing s
  have hsums : ((st.closing s).slot st.call).Sums spec s.moment.now requests true
      (st.closing s).moment := by
    rw [hclosed, hmoment]
    exact .queued (Instant.le_refl s.moment.now)
  have hdone := (hsums.settle hservice hinvocation (hkept.server.trans hserver)).2 rfl
  obtain ⟨call, result, hslot, habsorb, hanswer⟩ := hdone.answer
  have hresult : result = answerTo spec.compressed requests := by
    cases hanswer with
    | whole => rfl
    | expired _ hsome => rw [hannounced] at hsome; cases hsome
    | unreachable hnone => rw [hconnected] at hnone; cases hnone
  have hfirst : (joinOperation st.call).turn .unopened (st.closing s) =
      (.waiting .unopened, st.closing s) := by
    simp only [joinOperation, Single.takeAll, hclosed]
  have hsecond := joinOperation_turn_live hslot .unopened
  rw [habsorb, hresult] at hsecond
  have hrun := Operation.run_guard_of_second (joinOperation st.call) .unopened
    (hidle.kept hkept).untriggered hfirst rfl hsecond (Session.moment_settle (st.closing s))
  refine ⟨_, closeAndReceive_eq hrun, ?_⟩
  exact (hkept.trans (Session.kept_settle _)).trans ⟨rfl, rfl, rfl⟩

end Calls

end RpcConformance
