import RpcConformance.Proofs.PayloadSizes
import RpcConformance.Proofs.ScenarioSteps
import RpcConformance.Proofs.TypedDetails
import RpcConformance.Scenario.DetailedFailure

/-!
# Steps of scenarios with payloads

Streams of the reference server that give responses of wanted sizes, and what scenarios do with
them: they open a stream, send a request of each size, and receive and check a response of each
size.  None of these steps finds anything wrong.

## Main results

* `Scenarios.quiet_openSizes`, `Scenarios.quiet_openFailing`, `Scenarios.quiet_openFullDuplex`,
  `Scenarios.quiet_openHalfDuplex`, `Scenarios.quiet_clientStreaming` — what is owed behind the
  headers.
* `Scenarios.quiet_sendSizes`, `Scenarios.quiet_receiveSizes`, `Scenarios.quiet_pingPongLoop`,
  `Scenarios.quiet_sendPairs`, `Scenarios.quiet_receiveEach`, `Scenarios.quiet_receiveEachServer` —
  the loops, by induction on the sizes that are left.
-/

namespace RpcConformance

/-- The event of a response with a payload. -/
def Event.ofSize (size : Int) : Event := .message (Reply.ofSize size)

/-- What a client learns from responses of these sizes. -/
theorem Reception.itemEvents_sizes {r : Reception} (hread : ∀ m, r.invocation.read m = m.readOutput)
    {sizes : List Int} (h : ∀ size ∈ sizes, Respondable size) :
    r.itemEvents ((sizes.map Payload.zeroed).map .response) = sizes.map Event.ofSize := by
  rw [itemEvents_responses hread, List.map_map]
  · rfl
  · intro p hp
    obtain ⟨size, hsize, rfl⟩ := List.mem_map.mp hp
    exact (h size hsize).short

/-- What a client learns from a stream that ends behind responses of these sizes. -/
theorem Reception.itemEvents_until {r : Reception}
    (hread : ∀ m, r.invocation.read m = m.readOutput) {sizes : List Int}
    (h : ∀ size ∈ sizes, Respondable size) (last : Item) :
    r.itemEvents (Forecast.items (sizes.map Payload.zeroed) (some last)) =
      sizes.map Event.ofSize ++ r.itemEvents [last] := by
  rw [Forecast.items, itemEvents_append, itemEvents_sizes hread h]
  rfl

/-! ## The failure of the methods that always fail -/

/-- The status with which a stream of responses fails, as it arrives. -/
def deliveredFailure : Status := ReferenceServer.detailedFailure.delivered

theorem errorDetails_deliveredFailure : deliveredFailure.errorDetails =
    .ok [⟨ErrorDetail.typeUrl, Agreed.errorDetail.encode⟩] := by
  have hdetails : deliveredFailure.details = ReferenceServer.detailedFailure.details := by
    decide +kernel
  have hshort : ReferenceServer.detailedFailure.details.length < wordLimit := by decide +kernel
  have hsome : ReferenceServer.detailedFailure.details ≠ [] := by decide +kernel
  rw [Status.errorDetails, hdetails, if_neg hsome, ReferenceServer.detailedFailure,
    Status.decode_withDetail hshort]
  rfl

/-! ## A call that has not begun -/

/-- A request whose payload is summed up. -/
def Request.ofSize (size : Int) : Request := .input ⟨some (Payload.zeroed size)⟩

/-- A plain call whose requests are summed up. -/
structure CallSpec.Sums (spec : CallSpec) : Prop where
  service : spec.service = .test
  invocation : spec.invocation = .streamingInputCall
  connected : spec.connected = true
  unlimited : Scope.announced spec.metadata = none

/-- A session whose only call has not begun, with the requests that its client has sent. -/
structure Session.Collecting (server : ReferenceServer) (st : ClientStream) (spec : CallSpec)
    (requests : List Request) (s : Session) : Prop where
  holds : s.Holds st.call (.queued spec requests false)
  sender : st.sender = some st.call
  idle : st.scope.Idle s
  serves : s.Serves server

/-- The answer to requests that can all be read, whose sum has 31 bits. -/
theorem answerTo_sizes {sizes : List Int} (compressed : Bool)
    (hshort : ∀ size ∈ sizes,
      Wire.optionalLength Payload.encodedLength (some (Payload.zeroed size)) ≤ maxMessageLength)
    (hsum : (sizes.map Int.toNat).sum < int32Limit) :
    answerTo compressed (sizes.map Request.ofSize) =
      .ok ⟨.aggregate (sizes.map Int.toNat).sum, .empty, .empty⟩ := by
  have hread : ∀ q ∈ sizes.map Request.ofSize, ¬q.IsLong compressed := by
    rintro q hq ⟨_, hlong⟩
    obtain ⟨size, hsize, rfl⟩ := List.mem_map.mp hq
    exact Nat.not_lt.mpr (hshort size hsize) hlong
  have hlengths : (sizes.map Request.ofSize).map (fun q => payloadLength q.toInput.payload) =
      sizes.map Int.toNat := by
    rw [List.map_map]
    exact List.map_congr_left fun size _ => Payload.length_zeroed size
  rw [answerTo, inputSum_of_short hread, hlengths, Nat.zero_add, answerOf]
  simp only [Except.bind, ReferenceServer.aggregate, if_pos hsum]

namespace Scenarios

open ScenarioM

variable {ρ : Type} {server : ReferenceServer} {F : Forecast} {reception : Reception}
  {ending : Option Item} {id : CallId} {events : List Event} {s : Session}

/-! ## A stream of requests -/

theorem quiet_clientStreaming {c : Client} {o : CallOptions} (hreachable : c.reachable = true)
    (h : s.Awaits server o) :
    Quiet (ρ := ρ) (onSession (c.clientStreaming o)) s fun r s' => ∃ st spec,
      r = .ok st ∧ spec.Sums ∧ s'.Collecting server st spec [] := by
  have hopen := c.clientStreaming_eq o s
  have hkept : s.Kept (s.enqueue (c.spec .test .streamingInputCall o s)).2 := ⟨rfl, rfl, rfl⟩
  have hunlimited : Scope.announced (o.requestMetadata s.moment) = none := by
    rw [h.plain.request]
    rfl
  refine quiet_onSession ?_
  rw [hopen]
  exact ⟨_, _, rfl, ⟨rfl, rfl, hreachable, hunlimited⟩, Session.holds_enqueue h.vacant _, rfl,
    h.plain.idle.kept hkept, h.serves.kept hkept⟩

/-- A request waits with those before it. -/
theorem quiet_sendInput {st : ClientStream} {spec : CallSpec} {requests : List Request}
    (h : s.Collecting server st spec requests) (hroom : requests.length < Call.bufferSize)
    (q : Request) :
    Quiet (ρ := ρ) (awaitWith (st.send q)) s fun r s' => r = (.ok (), st) ∧
      s'.Collecting server st spec (requests ++ [q]) := by
  obtain ⟨s', hsend, hholds, hkept⟩ :=
    ClientStream.send_queued h.sender h.idle h.holds hroom q
  exact quiet_awaitWith hsend
    ⟨rfl, hholds, h.sender, h.idle.kept hkept, h.serves.kept hkept⟩

/-- The answer is the one that the requests deserve. -/
theorem quiet_closeAndReceive {st : ClientStream} {spec : CallSpec} {requests : List Request}
    (hsums : spec.Sums) (h : s.Collecting server st spec requests) :
    Quiet (ρ := ρ) (await st.closeAndReceive) s fun r s' =>
      r = answerTo spec.compressed requests ∧ s'.Serves server := by
  obtain ⟨s', hanswer, hkept⟩ := ClientStream.closeAndReceive_plain h.serves.server_eq h.sender
    h.idle h.holds hsums.service hsums.invocation hsums.connected hsums.unlimited
  exact quiet_await hanswer ⟨rfl, h.serves.kept hkept⟩

/-! ## Opening streams -/

theorem outputRequest_sizes (sizes : List Int) :
    outputRequest sizes none = .ok (.ofSizes sizes) := rfl

theorem quiet_messageBound :
    Quiet (ρ := ρ) messageBound s fun bound s' => bound = s.messageBound ∧ s' = s :=
  ⟨s.messageBound, s, fun _ _ => rfl, rfl, rfl⟩

section Opening

variable {c : Client} {o : CallOptions} (hreachable : c.reachable = true) (h : s.Awaits server o)

include hreachable h

section Sizes

variable {sizes : List Int} (hsizes : ∀ size ∈ sizes, Respondable size)
  (hlength : (StreamingOutputRequest.ofSizes sizes).encodedLength ≤ maxMessageLength)

include hsizes hlength

/-- A stream of responses of some sizes. -/
theorem quiet_openSizes :
    Quiet (ρ := ρ) (serverStreaming c .test (.streamingOutputCall (.ofSizes sizes)) o) s
      fun r s' => ∃ id, r = .ok ⟨Responses.opened id .empty, o.scope⟩ ∧
        s'.Streaming server o.scope OutputStream.Forecast
          ⟨.streamingOutputCall (.ofSizes sizes), c.target.compression, false⟩ (some .finished) id
          (sizes.map Event.ofSize ++ [.ended .success]) := by
  have hparameters := StreamingOutputRequest.answerable_ofSizes fun q hq => (hsizes q hq).nonneg
  have hopen := quiet_serverStreaming (ρ := ρ) OutputStream.forecast_sound hreachable h
    (Session.accept_output h.serves.server_eq h.plain hparameters (Or.inr hlength))
    (OutputStream.forecast_start rfl hparameters none _)
  have hlast : OutputStream.closingItem none = .finished := rfl
  rw [StreamingOutputRequest.payloads_ofSizes, Reception.itemEvents_until (fun _ => rfl) hsizes,
    hlast, Reception.itemEvents_finished rfl] at hopen
  exact hopen

/-- Responses of some sizes, and then a failure. -/
theorem quiet_openFailing :
    Quiet (ρ := ρ) (serverStreaming c .test (.failStreamingOutputCall (.ofSizes sizes)) o) s
      fun r s' => ∃ id, r = .ok ⟨Responses.opened id .empty, o.scope⟩ ∧
        s'.Streaming server o.scope OutputStream.Forecast
          ⟨.failStreamingOutputCall (.ofSizes sizes), c.target.compression, false⟩
          (some (.failed ReferenceServer.detailedFailure)) id
          (sizes.map Event.ofSize ++ [.ended deliveredFailure]) := by
  have hparameters := StreamingOutputRequest.answerable_ofSizes fun q hq => (hsizes q hq).nonneg
  have hopen := quiet_serverStreaming (ρ := ρ) OutputStream.forecast_sound hreachable h
    (Session.accept_failing h.serves.server_eq h.plain hparameters (Or.inr hlength))
    (OutputStream.forecast_start rfl hparameters (some ReferenceServer.detailedFailure) _)
  have hlast : OutputStream.closingItem (some ReferenceServer.detailedFailure) =
      .failed ReferenceServer.detailedFailure := rfl
  rw [StreamingOutputRequest.payloads_ofSizes, Reception.itemEvents_until (fun _ => rfl) hsizes,
    hlast, Reception.itemEvents_failed rfl] at hopen
  exact hopen

end Sizes

/-- A conversation that answers at once. -/
theorem quiet_openFullDuplex :
    Quiet (ρ := ρ) (bidiStreaming c .fullDuplexCall o) s fun r s' => ∃ id,
      r = .ok ⟨some id, Responses.opened id .empty, o.scope⟩ ∧
        s'.Streaming server o.scope (FullDuplex.Forecast ⟨[], .ongoing⟩)
          ⟨.fullDuplexCall, c.target.compression, false⟩ none id [] :=
  quiet_bidiStreaming (FullDuplex.forecast_sound _) hreachable h
    (Session.accept_fullDuplex h.serves.server_eq h.plain) (FullDuplex.forecast_start rfl _)

/-- A conversation that answers at the end of its input. -/
theorem quiet_openHalfDuplex :
    Quiet (ρ := ρ) (bidiStreaming c .halfDuplexCall o) s fun r s' => ∃ id,
      r = .ok ⟨some id, Responses.opened id .empty, o.scope⟩ ∧
        s'.Streaming server o.scope (HalfDuplex.Forecast ⟨[], .ongoing⟩)
          ⟨.halfDuplexCall, c.target.compression, false⟩ none id [] :=
  quiet_bidiStreaming (HalfDuplex.forecast_sound _) hreachable h
    (Session.accept_halfDuplex h.serves.server_eq h.plain) (HalfDuplex.forecast_start rfl _)

end Opening

/-! ## Closing the sending side -/

section Closing

variable {st : BidiStream} {requests : List StreamingOutputRequest}
  (hsender : st.sender = some id) (hsettled : reception.settled = false)

include hsender hsettled

theorem quiet_closeFullDuplex
    (h : s.Streaming server st.scope (FullDuplex.Forecast ⟨requests, .ongoing⟩) reception none id
      []) :
    Quiet (ρ := ρ) (closeSend st) s fun st' s' => st' = { st with sender := none } ∧
      s'.Streaming server st'.scope (FullDuplex.Forecast ⟨requests, .closed⟩) reception
        (some .finished) id [.ended .success] := by
  have hclosed : ∀ payloads w st, FullDuplex.Forecast ⟨requests, .ongoing⟩ payloads none w st →
      FullDuplex.Forecast ⟨requests, .closed⟩ (payloads ++ []) (some .finished)
        { w with inbox := w.inbox.close } st := by
    intro payloads w st hforecast
    rw [List.append_nil]
    exact hforecast.closed
  have hclose := quiet_closeSend (ρ := ρ) hsender hclosed h
  rw [List.nil_append, show Forecast.items [] (some .finished) = [.finished] from rfl,
    Reception.itemEvents_finished hsettled] at hclose
  exact hclose

theorem quiet_closeHalfDuplex (hread : ∀ m, reception.invocation.read m = m.readOutput)
    {sizes : List Int} (hsizes : ∀ size ∈ sizes, Respondable size)
    (hall : requests.flatMap StreamingOutputRequest.responses =
      (sizes.map Payload.zeroed).map .response)
    (h : s.Streaming server st.scope (HalfDuplex.Forecast ⟨requests, .ongoing⟩) reception none id
      []) :
    Quiet (ρ := ρ) (closeSend st) s fun st' s' => st' = { st with sender := none } ∧
      s'.Streaming server st'.scope (HalfDuplex.Forecast ⟨requests, .closed⟩) reception
        (some .finished) id (sizes.map Event.ofSize ++ [.ended .success]) := by
  have hclose := quiet_closeSend (ρ := ρ) hsender (fun _ _ _ hforecast => hforecast.closed hall) h
  rw [List.nil_append, Reception.itemEvents_until hread hsizes,
    Reception.itemEvents_finished hsettled] at hclose
  exact hclose

end Closing

variable [Reporter ρ]

/-- The sizes are summed up, as the server is going to. -/
theorem quiet_sendSizes {st : ClientStream} {spec : CallSpec} {sizes : List Int}
    (hnonneg : ∀ size ∈ sizes, 0 ≤ size) (sum : Nat) (requests : List Request)
    (hsum : sum + (sizes.map Int.toNat).sum < int32Limit)
    (hroom : requests.length + sizes.length ≤ Call.bufferSize)
    (h : s.Collecting server st spec requests) :
    Quiet (ρ := ρ) (sendSizes st sum sizes) s fun r s' =>
      r = (st, ((sum + (sizes.map Int.toNat).sum : Nat) : Int)) ∧
        s'.Collecting server st spec (requests ++ sizes.map Request.ofSize) := by
  induction sizes generalizing sum requests s with
  | nil => exact quiet_pure ⟨rfl, by rwa [List.map_nil, List.append_nil]⟩
  | cons size rest ih =>
      have hsize := hnonneg size List.mem_cons_self
      rw [List.map_cons, List.sum_cons] at hsum ⊢
      rw [List.length_cons] at hroom
      rw [sendSizes]
      refine (quiet_requireOk (zeros_of_nonneg hsize) _).bind ?_
      rintro _ s' ⟨rfl, rfl⟩
      refine (quiet_sendInput h (by omega) (Request.ofSize size)).bind ?_
      rintro ⟨r, st'⟩ s' ⟨hr, hcollecting⟩
      cases hr
      refine (quiet_requireOk rfl _).bind ?_
      rintro _ s' ⟨rfl, rfl⟩
      have hadd : addInt32 sum size = .ok ((sum + size.toNat : Nat) : Int) := by
        have hvalue : (sum : Int) + size = ((sum + size.toNat : Nat) : Int) := by omega
        rw [addInt32, hvalue, if_pos (by omega)]
      refine (quiet_checked hadd).bind ?_
      rintro _ s' ⟨rfl, rfl⟩
      have hrest := ih (fun q hq => hnonneg q (List.mem_cons_of_mem size hq)) (sum + size.toNat)
        (requests ++ [Request.ofSize size]) (by omega)
        (by rw [List.length_append, List.length_singleton]; omega) hcollecting
      rw [List.append_assoc, Nat.add_assoc] at hrest
      exact hrest

/-! ## Responses of a stream -/

/-- Responses of expected sizes are received without a complaint, up to the end of the stream. -/
theorem quiet_receiveSizes {st : ServerStream} (hF : F.Sound)
    (hlive : st.responses.state = .live id) {sizes : List Int}
    (hsizes : ∀ size ∈ sizes, Respondable size) (before : List Int) (fuel : Nat)
    (hfuel : sizes.length < fuel)
    (h : s.Streaming server st.scope F reception ending id
      (sizes.map Event.ofSize ++ [.ended .success])) :
    Quiet (ρ := ρ) (receiveSizes (before ++ sizes) fuel before.length st) s fun count s' =>
      count = (before ++ sizes).length ∧ s'.Serves server := by
  -- `before` are the sizes of the responses that have come, so its length is the next index.
  induction sizes generalizing before fuel s with
  | nil =>
      obtain ⟨fuel, rfl⟩ := Nat.exists_eq_add_of_lt hfuel
      rw [List.length_nil, Nat.zero_add, receiveSizes]
      refine (quiet_receiveServer_ended hF hlive h).bind ?_
      rintro ⟨r, st'⟩ s' ⟨hr, hserves⟩
      obtain rfl : r = .ok none := hr
      exact quiet_pure ⟨by rw [List.append_nil], hserves⟩
  | cons size rest ih =>
      obtain ⟨fuel, rfl⟩ := Nat.exists_eq_add_of_lt hfuel
      rw [receiveSizes]
      refine (quiet_receiveServer hF hlive h).bind ?_
      rintro ⟨r, st'⟩ s' ⟨hr, hstreaming⟩
      cases hr
      have hexpected : (before ++ size :: rest)[before.length]? = some size := by
        rw [List.getElem?_append_right (Nat.le_refl _), Nat.sub_self]
        rfl
      simp only [hexpected]
      refine (quiet_checkLength (hsizes size List.mem_cons_self).payloadLength _).bind ?_
      rintro _ s' rfl
      have hrest := ih (fun q hq => hsizes q (List.mem_cons_of_mem size hq)) (before ++ [size])
        (rest.length + 1 + fuel) (by omega) hstreaming
      rw [List.length_append, List.append_assoc] at hrest
      exact hrest

/-- So are responses that are received one by one. -/
theorem quiet_receiveEachServer {st : ServerStream} (hF : F.Sound)
    (hlive : st.responses.state = .live id) {sizes : List Int}
    (hsizes : ∀ size ∈ sizes, Respondable size) (index : Nat)
    (h : s.Streaming server st.scope F reception ending id (sizes.map Event.ofSize ++ events)) :
    Quiet (ρ := ρ) (receiveEachServer index st sizes) s fun st' s' =>
      st' = st ∧ s'.Streaming server st.scope F reception ending id events := by
  induction sizes generalizing index s with
  | nil => exact quiet_pure ⟨rfl, h⟩
  | cons size rest ih =>
      rw [receiveEachServer]
      refine (quiet_receiveServer hF hlive h).bind ?_
      rintro ⟨r, st'⟩ s' ⟨hr, hstreaming⟩
      cases hr
      refine (quiet_expectResponse rfl _).bind ?_
      rintro _ s' ⟨rfl, rfl⟩
      refine (quiet_checkLength (hsizes size List.mem_cons_self).payloadLength _).bind ?_
      rintro _ s' rfl
      exact ih (fun q hq => hsizes q (List.mem_cons_of_mem size hq)) (index + 1) hstreaming

theorem quiet_receiveEach {st : BidiStream} (hF : F.Sound) (hlive : st.responses.state = .live id)
    {sizes : List Int} (hsizes : ∀ size ∈ sizes, Respondable size) (index : Nat)
    (h : s.Streaming server st.scope F reception ending id (sizes.map Event.ofSize ++ events)) :
    Quiet (ρ := ρ) (receiveEach index st sizes) s fun st' s' =>
      st' = st ∧ s'.Streaming server st.scope F reception ending id events := by
  induction sizes generalizing index s with
  | nil => exact quiet_pure ⟨rfl, h⟩
  | cons size rest ih =>
      rw [receiveEach]
      refine (quiet_receiveBidi hF hlive h).bind ?_
      rintro ⟨r, st'⟩ s' ⟨hr, hstreaming⟩
      cases hr
      refine (quiet_expectResponse rfl _).bind ?_
      rintro _ s' ⟨rfl, rfl⟩
      refine (quiet_checkLength (hsizes size List.mem_cons_self).payloadLength _).bind ?_
      rintro _ s' rfl
      exact ih (fun q hq => hsizes q (List.mem_cons_of_mem size hq)) (index + 1) hstreaming

/-! ## Requests of a stream -/

theorem outputRequest_pair {pair : Int × Int} (h : 0 ≤ pair.1) :
    outputRequest [pair.2] (some pair.1) = .ok (.ofPair pair) := by
  simp only [outputRequest, zeros_of_nonneg h]
  rfl

/-- Each request is answered at once, by a response of its size. -/
theorem quiet_pingPongLoop {st : BidiStream} (hsender : st.sender = some id)
    (hlive : st.responses.state = .live id)
    (hread : ∀ m, reception.invocation.read m = m.readOutput) {pairs : List (Int × Int)}
    (hpairs : ∀ pair ∈ pairs, Exchangeable pair) (index : Nat)
    (requests : List StreamingOutputRequest)
    (h : s.Streaming server st.scope (FullDuplex.Forecast ⟨requests, .ongoing⟩) reception none id
      []) :
    Quiet (ρ := ρ) (pingPongLoop index st pairs) s fun st' s' => st' = st ∧
      s'.Streaming server st.scope
        (FullDuplex.Forecast ⟨requests ++ pairs.map .ofPair, .ongoing⟩) reception none id [] := by
  -- Nothing is owed between two rounds: each round adds one event and takes it.
  induction pairs generalizing index requests s with
  | nil => exact quiet_pure ⟨rfl, by rwa [List.map_nil, List.append_nil]⟩
  | cons pair rest ih =>
      obtain ⟨hnonneg, hshort, hrespondable⟩ := hpairs pair List.mem_cons_self
      rw [pingPongLoop]
      refine (quiet_requireOk (outputRequest_pair hnonneg) _).bind ?_
      rintro _ s' ⟨rfl, rfl⟩
      have hsend := quiet_sendBidi (ρ := ρ) (FullDuplex.forecast_sound _) hsender (Or.inr hshort)
        (fun _ _ _ hforecast => hforecast.sent
          (StreamingOutputRequest.failure?_ofPair hrespondable.nonneg)
          (StreamingOutputRequest.responses_ofPair hrespondable.nonneg)) h
      refine hsend.bind ?_
      rintro ⟨r, st'⟩ s' ⟨hr, hstreaming⟩
      cases hr
      refine (quiet_requireOk rfl _).bind ?_
      rintro _ s' ⟨rfl, rfl⟩
      have hevent : reception.itemEvents ([Payload.zeroed pair.2].map .response) =
          [Event.ofSize pair.2] :=
        @Reception.itemEvents_sizes reception hread [pair.2] (by simpa using hrespondable)
      rw [List.nil_append, hevent] at hstreaming
      refine (quiet_receiveBidi (FullDuplex.forecast_sound _) hlive hstreaming).bind ?_
      rintro ⟨r, st'⟩ s' ⟨hr, hsettled⟩
      cases hr
      refine (quiet_expectResponse rfl _).bind ?_
      rintro _ s' ⟨rfl, rfl⟩
      refine (quiet_checkLength hrespondable.payloadLength _).bind ?_
      rintro _ s' rfl
      have hrest := ih (fun q hq => hpairs q (List.mem_cons_of_mem pair hq)) (index + 1)
        (requests ++ [.ofPair pair]) hsettled
      rw [List.append_assoc] at hrest
      exact hrest

/-- Requests that are not answered yet are sent without a complaint. -/
theorem quiet_sendPairs {st : BidiStream} (hsender : st.sender = some id)
    {pairs : List (Int × Int)} (hpairs : ∀ pair ∈ pairs, Exchangeable pair) (index : Nat)
    (requests : List StreamingOutputRequest)
    (h : s.Streaming server st.scope (HalfDuplex.Forecast ⟨requests, .ongoing⟩) reception none id
      []) :
    Quiet (ρ := ρ) (sendPairs index st pairs) s fun st' s' => st' = st ∧
      s'.Streaming server st.scope
        (HalfDuplex.Forecast ⟨requests ++ pairs.map .ofPair, .ongoing⟩) reception none id [] := by
  induction pairs generalizing index requests s with
  | nil => exact quiet_pure ⟨rfl, by rwa [List.map_nil, List.append_nil]⟩
  | cons pair rest ih =>
      obtain ⟨hnonneg, hshort, hrespondable⟩ := hpairs pair List.mem_cons_self
      rw [sendPairs]
      refine (quiet_requireOk (outputRequest_pair hnonneg) _).bind ?_
      rintro _ s' ⟨rfl, rfl⟩
      have hsilent : ∀ payloads w st, HalfDuplex.Forecast ⟨requests, .ongoing⟩ payloads none w st →
          HalfDuplex.Forecast ⟨requests ++ [.ofPair pair], .ongoing⟩ (payloads ++ []) none
            { w with inbox := w.inbox.push (.message (.ofPair pair)) } st := by
        intro payloads w st hforecast
        rw [List.append_nil]
        exact hforecast.sent (StreamingOutputRequest.failure?_ofPair hrespondable.nonneg)
      refine (quiet_sendBidi (HalfDuplex.forecast_sound _) hsender (Or.inr hshort) hsilent
        h).bind ?_
      rintro ⟨r, st'⟩ s' ⟨hr, hstreaming⟩
      cases hr
      refine (quiet_requireOk rfl _).bind ?_
      rintro _ s' ⟨rfl, rfl⟩
      have hrest := ih (fun q hq => hpairs q (List.mem_cons_of_mem pair hq)) (index + 1)
        (requests ++ [.ofPair pair]) hstreaming
      rw [List.append_assoc] at hrest
      exact hrest

/-- The failure of the methods that always fail is the wanted one. -/
theorem quiet_checkDetailedFailure :
    Quiet (ρ := ρ) (checkDetailedFailure deliveredFailure) s fun _ s' => s' = s := by
  have hcode : deliveredFailure.code = .resourceExhausted := by decide +kernel
  have hmessage : deliveredFailure.message = Agreed.failureMessage := by decide +kernel
  have hdetail : ErrorDetail.decode Agreed.errorDetail.encode = .ok Agreed.errorDetail :=
    ErrorDetail.decode_encode (by decide +kernel)
  rw [checkDetailedFailure]
  refine (quiet_checkEq Code.name hcode _).bind ?_
  rintro _ s rfl
  refine (quiet_checkEq Text.quoted hmessage _).bind ?_
  rintro _ s rfl
  simp only [errorDetails_deliveredFailure]
  refine (quiet_checkEq Decimal.text rfl _).bind ?_
  rintro _ s rfl
  refine (quiet_checkEq Text.quoted rfl _).bind ?_
  rintro _ s rfl
  simp only [AnyValue.errorDetail, hdetail]
  exact quiet_checkEq ErrorDetail.describe rfl _

end Scenarios

end RpcConformance
