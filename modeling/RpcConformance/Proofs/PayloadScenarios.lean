import RpcConformance.Proofs.PayloadSteps
import RpcConformance.Scenario.Catalogue
import RpcConformance.Suite.Run

/-!
# Scenarios with payloads

The scenarios that send and ask for payloads of given sizes find nothing wrong with the reference
server, whatever the sizes are, as long as none is negative and every message fits the transport.

## Main results

* `Scenarios.largeUnary_succeeds`, `Scenarios.clientStreaming_succeeds`,
  `Scenarios.serverStreamingSizes_succeeds`, `Scenarios.pingPong_succeeds`,
  `Scenarios.halfDuplex_succeeds`, `Scenarios.failServerStreamingAfterResponse_succeeds` — the
  scenarios, one by one.
* `Suite.payload_scenarios_succeed` — each scenario passes, and its only report is its success.
-/

namespace RpcConformance

namespace Scenarios

open ScenarioM

variable {server : ReferenceServer} {s : Session}

section Runs

variable {c : Context} (hreachable : c.client.reachable = true) (ht : c.sizes.Transportable)
  (h : s.Serves server) (hvacant : s.Vacant)

include hreachable ht h hvacant

theorem largeUnary_succeeds :
    Succeeds (largeUnary c) "successful large unary" s (·.Serves server) := by
  have hrequest : largeRequestOf c.sizes = .ok c.sizes.largeMessage := by
    simp only [largeRequestOf, zeros_of_nonneg ht.largeRequest_nonneg]
    rfl
  refine (quiet_requireOk hrequest _).succeeds ?_
  rintro _ s ⟨rfl, rfl⟩
  refine (quiet_plainOptions h hvacant).succeeds ?_
  intro o s hawaits
  have hhandle : server.handle (.unaryCall c.sizes.largeMessage) .empty s.moment.now 0 =
      .answered ⟨c.sizes.largeReply, .empty, none⟩ := by
    simp only [ReferenceServer.handle, ReferenceServer.unaryCall, ReferenceServer.answerSimple,
      Sizes.largeMessage, zeros_of_nonneg ht.largeResponse_nonneg]
    rfl
  have hlength : (Invocation.unaryCall c.sizes.largeMessage).requestLength ≤ maxMessageLength :=
    ht.largeMessage_short
  obtain ⟨s', hunary, hkept⟩ := c.client.unary_plain hreachable hawaits.serves.server_eq
    hawaits.plain (Or.inr hlength) rfl hhandle rfl (Or.inr ht.largeReply_short)
  refine (quiet_await (P := fun r s₁ => r = .ok ⟨c.sizes.largeReply, .empty, .empty⟩ ∧
    s₁.Serves server) hunary ⟨rfl, hawaits.serves.kept hkept⟩).succeeds ?_
  rintro _ s ⟨rfl, hserves⟩
  refine (quiet_requireOk rfl _).succeeds ?_
  rintro _ s ⟨rfl, rfl⟩
  refine (quiet_checkEq Decimal.signedText rfl _).succeeds ?_
  rintro _ s rfl
  refine (quiet_checkLength ht.payloadLength_large _).succeeds ?_
  rintro _ s rfl
  exact succeeds_success hserves

theorem clientStreaming_succeeds :
    Succeeds (clientStreaming c) "successful client streaming" s (·.Serves server) := by
  refine (quiet_plainOptions h hvacant).succeeds ?_
  intro o s hawaits
  refine (quiet_clientStreaming hreachable hawaits).succeeds ?_
  rintro _ s ⟨st, spec, rfl, hsums, hcollecting⟩
  refine (quiet_requireOk rfl _).succeeds ?_
  rintro _ s ⟨rfl, rfl⟩
  have hroom : ([] : List Request).length + c.sizes.request.toList.length ≤ Call.bufferSize := by
    show 0 + 4 ≤ 16
    decide
  refine (quiet_sendSizes ht.request_nonneg 0 [] (by simpa using ht.request_sum_lt) hroom
    hcollecting).succeeds ?_
  rintro _ s ⟨rfl, hsent⟩
  refine (quiet_closeAndReceive hsums hsent).succeeds ?_
  rintro _ s ⟨rfl, hserves⟩
  have hanswer := answerTo_sizes spec.compressed ht.request_le ht.request_sum_lt
  refine (quiet_requireOk hanswer _).succeeds ?_
  rintro _ s ⟨rfl, rfl⟩
  have hsum : Reply.toAggregate (.aggregate (c.sizes.request.toList.map Int.toNat).sum) =
      ((0 + (c.sizes.request.toList.map Int.toNat).sum : Nat) : Int) := by
    rw [Nat.zero_add]
    rfl
  refine (quiet_checkEq Decimal.signedText hsum _).succeeds ?_
  rintro _ s rfl
  exact succeeds_success hserves

theorem serverStreamingSizes_succeeds :
    Succeeds (serverStreamingSizes c) "successful server streaming" s (·.Serves server) := by
  refine (quiet_requireOk (outputRequest_sizes c.sizes.response.toList) _).succeeds ?_
  rintro _ s ⟨rfl, rfl⟩
  refine (quiet_plainOptions h hvacant).succeeds ?_
  intro o s hawaits
  have hlength := StreamingOutputRequest.length_ofSizes_le
    (Nat.le_refl c.sizes.response.toList.length)
  refine (quiet_openSizes hreachable hawaits ht.respondable hlength).succeeds ?_
  rintro _ s ⟨id, rfl, hstreaming⟩
  refine (quiet_requireOk rfl _).succeeds ?_
  rintro _ s ⟨rfl, rfl⟩
  refine quiet_messageBound.succeeds ?_
  rintro bound s ⟨rfl, rfl⟩
  have hbound := hstreaming.owing.length_le fun hforecast => by
    rw [hforecast.length_items]
    omega
  rw [List.length_append, List.length_map, List.length_singleton] at hbound
  refine (quiet_receiveSizes OutputStream.forecast_sound rfl ht.respondable [] _ (by omega)
    hstreaming).succeeds ?_
  rintro _ s ⟨rfl, hserves⟩
  refine (quiet_checkEq Decimal.text rfl _).succeeds ?_
  rintro _ s rfl
  exact succeeds_success hserves

theorem pingPong_succeeds :
    Succeeds (pingPong c) "successful ping pong" s (·.Serves server) := by
  refine (quiet_plainOptions h hvacant).succeeds ?_
  intro o s hawaits
  refine (quiet_openFullDuplex hreachable hawaits).succeeds ?_
  rintro _ s ⟨id, rfl, hstreaming⟩
  refine (quiet_requireOk rfl _).succeeds ?_
  rintro _ s ⟨rfl, rfl⟩
  refine (quiet_pingPongLoop rfl rfl (fun _ => rfl) ht.exchangeable 0 [] hstreaming).succeeds ?_
  rintro _ s ⟨rfl, hstreaming⟩
  refine (quiet_closeFullDuplex rfl rfl hstreaming).succeeds ?_
  rintro _ s ⟨rfl, hstreaming⟩
  refine (quiet_receiveBidi_ended (FullDuplex.forecast_sound _) rfl hstreaming).succeeds ?_
  rintro ⟨r, _⟩ s ⟨hr, hserves⟩
  obtain rfl : r = .ok none := hr
  refine (quiet_checkEnd rfl).succeeds ?_
  rintro _ s rfl
  exact succeeds_success hserves

theorem halfDuplex_succeeds :
    Succeeds (halfDuplex c) "successful half duplex" s (·.Serves server) := by
  refine (quiet_plainOptions h hvacant).succeeds ?_
  intro o s hawaits
  refine (quiet_openHalfDuplex hreachable hawaits).succeeds ?_
  rintro _ s ⟨id, rfl, hstreaming⟩
  refine (quiet_requireOk rfl _).succeeds ?_
  rintro _ s ⟨rfl, rfl⟩
  refine (quiet_sendPairs rfl ht.exchangeable 0 [] hstreaming).succeeds ?_
  rintro _ s ⟨rfl, hstreaming⟩
  refine (quiet_closeHalfDuplex rfl rfl (fun _ => rfl) ht.respondable
    (StreamingOutputRequest.responses_ofPairs ht.exchangeable) hstreaming).succeeds ?_
  rintro _ s ⟨rfl, hstreaming⟩
  refine (quiet_receiveEach (HalfDuplex.forecast_sound _) rfl ht.respondable 0
    hstreaming).succeeds ?_
  rintro _ s ⟨rfl, hstreaming⟩
  refine (quiet_receiveBidi_ended (HalfDuplex.forecast_sound _) rfl hstreaming).succeeds ?_
  rintro ⟨r, _⟩ s ⟨hr, hserves⟩
  obtain rfl : r = .ok none := hr
  refine (quiet_checkEnd rfl).succeeds ?_
  rintro _ s rfl
  exact succeeds_success hserves

theorem failServerStreamingAfterResponse_succeeds :
    Succeeds (failServerStreamingAfterResponse c) "successful fail server streaming after response"
      s (·.Serves server) := by
  have hfirst : ∀ size ∈ c.sizes.response.toList.take leadingResponses, Respondable size :=
    fun size hsize => ht.respondable size (List.mem_of_mem_take hsize)
  have hlength := StreamingOutputRequest.length_ofSizes_le
    (List.length_take_le leadingResponses c.sizes.response.toList)
  refine (quiet_requireOk (outputRequest_sizes _) _).succeeds ?_
  rintro _ s ⟨rfl, rfl⟩
  refine (quiet_plainOptions h hvacant).succeeds ?_
  intro o s hawaits
  refine (quiet_openFailing hreachable hawaits hfirst hlength).succeeds ?_
  rintro _ s ⟨id, rfl, hstreaming⟩
  refine (quiet_requireOk rfl _).succeeds ?_
  rintro _ s ⟨rfl, rfl⟩
  refine (quiet_receiveEachServer OutputStream.forecast_sound rfl hfirst 0 hstreaming).succeeds ?_
  rintro _ s ⟨rfl, hstreaming⟩
  refine (quiet_receiveServer_ended OutputStream.forecast_sound rfl hstreaming).succeeds ?_
  rintro ⟨r, _⟩ s ⟨hr, hserves⟩
  obtain rfl : r = .error deliveredFailure := hr
  refine quiet_checkDetailedFailure.succeeds ?_
  rintro _ s rfl
  exact succeeds_success hserves

end Runs

end Scenarios

/-! ## Runs -/

/-- The names of the scenarios whose messages have payloads of the sizes of a table. -/
def payloadNames : List String :=
  ["large-unary", "client-streaming", "server-streaming", "ping-pong", "half-duplex",
    "fail-server-streaming-after-response"]

/-- These scenarios of the catalogue. -/
def payloadScenarios : List (Scenario Recorder) :=
  (catalogue Recorder).filter fun s => payloadNames.contains s.name

/-- The words with which a scenario reports its success. -/
def successMessage (name : String) : String :=
  "successful " ++ name.map fun c => if c = '-' then ' ' else c

theorem payloadScenarios_eq : payloadScenarios =
    [⟨⟨"large-unary", .unary, []⟩, Scenarios.largeUnary⟩,
      ⟨⟨"client-streaming", .streaming, []⟩, Scenarios.clientStreaming⟩,
      ⟨⟨"server-streaming", .streaming, []⟩, Scenarios.serverStreamingSizes⟩,
      ⟨⟨"ping-pong", .streaming, [.fullDuplex]⟩, Scenarios.pingPong⟩,
      ⟨⟨"half-duplex", .streaming, []⟩, Scenarios.halfDuplex⟩,
      ⟨⟨"fail-server-streaming-after-response", .errors, []⟩,
        Scenarios.failServerStreamingAfterResponse⟩] := rfl

section Runs

variable {server : ReferenceServer} {c : Context} (hreachable : c.client.reachable = true)
  (ht : c.sizes.Transportable)

include hreachable ht

theorem payloadScenario_succeeds {sc : Scenario Recorder} (hsc : sc ∈ payloadScenarios)
    {s : Session} (h : s.Serves server) (hvacant : s.Vacant) :
    ScenarioM.Succeeds (sc.run c) (successMessage sc.name) s (·.Serves server) := by
  have hwords : payloadNames.map successMessage =
      ["successful large unary", "successful client streaming", "successful server streaming",
        "successful ping pong", "successful half duplex",
        "successful fail server streaming after response"] := by decide +kernel
  simp only [payloadNames, List.map_cons, List.map_nil, List.cons.injEq, and_true] at hwords
  obtain ⟨hunary, hclient, hserver, hping, hhalf, hfail⟩ := hwords
  simp only [payloadScenarios_eq, List.mem_cons, List.not_mem_nil, or_false] at hsc
  rcases hsc with rfl | rfl | rfl | rfl | rfl | rfl
  · exact hunary ▸ Scenarios.largeUnary_succeeds hreachable ht h hvacant
  · exact hclient ▸ Scenarios.clientStreaming_succeeds hreachable ht h hvacant
  · exact hserver ▸ Scenarios.serverStreamingSizes_succeeds hreachable ht h hvacant
  · exact hping ▸ Scenarios.pingPong_succeeds hreachable ht h hvacant
  · exact hhalf ▸ Scenarios.halfDuplex_succeeds hreachable ht h hvacant
  · exact hfail ▸ Scenarios.failServerStreamingAfterResponse_succeeds hreachable ht h hvacant

end Runs

namespace Suite

section Runs

variable {server : ReferenceServer} {c : Context} (hreachable : c.client.reachable = true)
  (ht : c.sizes.Transportable)

/-- The outcome of a scenario that passed. -/
def passedOutcome (sc : Scenario Recorder) : ScenarioOutcome :=
  ⟨sc.name, sc.category, true, 0, none⟩

/-- The only report of a scenario with payloads. -/
def successEvent (sc : Scenario Recorder) : ReportEvent :=
  ⟨sc.name, .success, successMessage sc.name⟩

include hreachable ht

theorem runOne_payload {sc : Scenario Recorder} (hsc : sc ∈ payloadScenarios) {b : Bench Recorder}
    (h : b.session.Serves server) (hvacant : b.session.Vacant) :
    ∃ b', runOne c sc b = (.ok (passedOutcome sc), b') ∧
      b'.reporter.events = b.reporter.events ++ [successEvent sc] ∧ b'.log = b.log ∧
      b'.session.Serves server ∧ b'.session.Vacant := by
  obtain ⟨s', hrun, hserves⟩ := payloadScenario_succeeds hreachable ht hsc h hvacant
  have hbegun := hrun (Reporter.begin sc.name b.reporter) b.log rfl
  have hone : runOne c sc b = (.ok (passedOutcome sc), cleared
      ⟨(Reporter.begin sc.name b.reporter).record .success (successMessage sc.name), s',
        b.log⟩) := by
    simp only [runOne, hbegun]
    rfl
  exact ⟨_, hone, rfl, rfl, ⟨hserves.server_eq, hserves.unsignalled⟩, Session.vacant_abandonAll s'⟩

theorem runAll_payload {scenarios : List (Scenario Recorder)}
    (hscenarios : ∀ sc ∈ scenarios, sc ∈ payloadScenarios) {b : Bench Recorder}
    (h : b.session.Serves server) (hvacant : b.session.Vacant) :
    ∃ b', runAll c scenarios b = (.ok (scenarios.map passedOutcome), b') ∧
      b'.reporter.events = b.reporter.events ++ scenarios.map successEvent ∧ b'.log = b.log := by
  induction scenarios generalizing b with
  | nil => exact ⟨b, rfl, (List.append_nil _).symm, rfl⟩
  | cons sc rest ih =>
      obtain ⟨b₁, hone, hevents, hlog, hserves, hvacant₁⟩ :=
        runOne_payload hreachable ht (hscenarios sc List.mem_cons_self) h hvacant
      obtain ⟨b₂, hrest, hevents', hlog'⟩ :=
        ih (fun q hq => hscenarios q (List.mem_cons_of_mem sc hq)) hserves hvacant₁
      refine ⟨b₂, ?_, ?_, hlog'.trans hlog⟩
      · rw [runAll, ScenarioM.bind_of_ok hone, ScenarioM.bind_of_ok hrest]
        rfl
      · rw [hevents', hevents, List.append_assoc]
        rfl

end Runs

/-- **Scenarios with payloads raise no false alarm.**  A client that reaches the reference server,
whatever its id, runs some of these scenarios, with a table whose sizes are not negative and small
enough for the messages of the transport.  All of them pass.  Each makes one report, which is its
success, and nothing is written to the log. -/
theorem payload_scenarios_succeed (server : ReferenceServer) (c : Context)
    (hreachable : c.client.reachable = true) (hsizes : c.sizes.Transportable) (b : Bench Recorder)
    (hserves : b.session.Serves server) (hvacant : b.session.Vacant)
    (scenarios : List (Scenario Recorder)) (hscenarios : ∀ sc ∈ scenarios, sc ∈ payloadScenarios) :
    ∃ b', run c scenarios b = (.ok ⟨scenarios.map passedOutcome⟩, b') ∧
      b'.reporter.events = b.reporter.events ++ scenarios.map successEvent ∧ b'.log = b.log := by
  obtain ⟨b', hrun, hreports⟩ := runAll_payload hreachable hsizes hscenarios hserves hvacant
  refine ⟨b', ?_, hreports⟩
  rw [run, ScenarioM.bind_of_ok hrun]
  rfl

namespace PayloadSample

/-- A table with sizes of zero. -/
def sizes : Sizes := ⟨⟨0, 8, 1024, 0⟩, ⟨16, 0, 2028, 65536⟩, 0, 512000⟩

def context : Context := { client := ⟨{}, true⟩, sizes := sizes, network := ⟨none⟩ }

def bench : Bench Recorder := ⟨{}, .start (.reference ⟨"server", "localhost"⟩), []⟩

end PayloadSample

open PayloadSample in
theorem sampleSizes_succeed :
    sizes.Transportable ∧ ∃ b', run context payloadScenarios bench =
        (.ok ⟨payloadScenarios.map passedOutcome⟩, b') ∧
      b'.reporter.events =
        [⟨"large-unary", .success, "successful large unary"⟩,
          ⟨"client-streaming", .success, "successful client streaming"⟩,
          ⟨"server-streaming", .success, "successful server streaming"⟩,
          ⟨"ping-pong", .success, "successful ping pong"⟩,
          ⟨"half-duplex", .success, "successful half duplex"⟩,
          ⟨"fail-server-streaming-after-response", .success,
            "successful fail server streaming after response"⟩] := by
  have htransportable : sizes.Transportable := Sizes.transportable_of_small (by decide)
  have hserves : bench.session.Serves ⟨"server", "localhost"⟩ := ⟨rfl, fun _ _ => rfl⟩
  have hvacant : bench.session.Vacant := fun _ hslot => absurd hslot List.not_mem_nil
  obtain ⟨b', hrun, hevents, _⟩ := payload_scenarios_succeed ⟨"server", "localhost"⟩ context rfl
    htransportable bench hserves hvacant payloadScenarios fun _ hsc => hsc
  have hreports : payloadScenarios.map successEvent =
      [⟨"large-unary", .success, "successful large unary"⟩,
        ⟨"client-streaming", .success, "successful client streaming"⟩,
        ⟨"server-streaming", .success, "successful server streaming"⟩,
        ⟨"ping-pong", .success, "successful ping pong"⟩,
        ⟨"half-duplex", .success, "successful half duplex"⟩,
        ⟨"fail-server-streaming-after-response", .success,
          "successful fail server streaming after response"⟩] := by
    rw [payloadScenarios_eq]
    decide +kernel
  exact ⟨htransportable, b', hrun, hevents.trans ((List.nil_append _).trans hreports)⟩

end Suite

end RpcConformance
