import RpcConformance.Proofs.PlainCalls
import RpcConformance.Reporter.Recorder
import RpcConformance.Scenario.Calls

/-!
# Steps of scenarios that find nothing wrong

A step of a scenario is quiet where it ends well and touches nothing but the session: neither the
reporter nor the log.  A scenario whose steps are all quiet, and which ends with its success,
reports that success and nothing else.  What a quiet step says of its result and of the session is
its only interface to the steps behind it.

## Main results

* `ScenarioM.Quiet.bind`, `ScenarioM.Quiet.succeeds` — steps, one after another.
* `ScenarioM.quiet_requireOk`, `ScenarioM.quiet_checkEq` — checks of what is so.
* `Scenarios.quiet_serverStreaming`, `Scenarios.quiet_bidiStreaming` — a stream is opened.
* `Scenarios.quiet_receiveServer`, `Scenarios.quiet_receiveBidi`, `Scenarios.quiet_sendBidi`,
  `Scenarios.quiet_closeSend` — the functions of a stream whose events are foretold.
-/

namespace RpcConformance

namespace ScenarioM

variable {ρ α β : Type}

theorem bind_of_ok {m : ScenarioM ρ α} {f : α → ScenarioM ρ β} {b b' : Bench ρ} {a : α}
    (h : m b = (.ok a, b')) : (m >>= f) b = f a b' := by
  simp only [bind, h]

/-- From a session, the procedure ends well and touches nothing but the session; `Q` holds of what
it gives and of the session then. -/
def Quiet (m : ScenarioM ρ α) (s : Session) (Q : α → Session → Prop) : Prop :=
  ∃ a s', (∀ r log, m ⟨r, s, log⟩ = (.ok a, ⟨r, s', log⟩)) ∧ Q a s'

variable {m : ScenarioM ρ α} {f : α → ScenarioM ρ β} {s : Session} {P : α → Session → Prop}
  {Q : β → Session → Prop}

theorem quiet_pure {a : α} (h : P a s) : Quiet (ρ := ρ) (pure a) s P :=
  ⟨a, s, fun _ _ => rfl, h⟩

/-- **Quiet steps follow one another quietly.** -/
theorem Quiet.bind (h : Quiet m s P) (hf : ∀ a s', P a s' → Quiet (f a) s' Q) :
    Quiet (m >>= f) s Q := by
  obtain ⟨a, s', hm, hP⟩ := h
  obtain ⟨b, s'', hfa, hQ⟩ := hf a s' hP
  exact ⟨b, s'', fun r log => (bind_of_ok (hm r log)).trans (hfa r log), hQ⟩

/-! ## Operations on the session -/

theorem quiet_onSession {g : Session → α × Session} (h : P (g s).1 (g s).2) :
    Quiet (ρ := ρ) (onSession g) s P :=
  ⟨_, _, fun _ _ => rfl, h⟩

theorem quiet_await {g : Session → Outcome α × Session} {a : α} {s' : Session}
    (hg : g s = (.answered a, s')) (h : P a s') : Quiet (ρ := ρ) (await g) s P :=
  ⟨a, s', fun _ _ => by simp only [await, hg], h⟩

theorem quiet_awaitWith {σ : Type} {g : Session → Outcome α × σ × Session} {a : α} {st : σ}
    {s' : Session} {R : α × σ → Session → Prop} (hg : g s = (.answered a, st, s'))
    (h : R (a, st) s') : Quiet (ρ := ρ) (Scenarios.awaitWith g) s R :=
  ⟨(a, st), s', fun _ _ => by simp only [Scenarios.awaitWith, hg], h⟩

/-! ## Checks -/

theorem quiet_checked {r : Except Overflow α} {a : α} (hr : r = .ok a) :
    Quiet (ρ := ρ) (checked r) s fun a' s' => a' = a ∧ s' = s := by
  rw [hr]
  exact quiet_pure ⟨rfl, rfl⟩

variable [Reporter ρ]

theorem quiet_requireOk {ε : Type} {show_ : ε → String} {r : Except ε α} {a : α} (hr : r = .ok a)
    (what : String) :
    Quiet (ρ := ρ) (requireOk show_ r what) s fun a' s' => a' = a ∧ s' = s := by
  rw [hr]
  exact quiet_pure ⟨rfl, rfl⟩

theorem quiet_checkEq [DecidableEq α] (show_ : α → String) {actual expected : α}
    (h : actual = expected) (what : String) :
    Quiet (ρ := ρ) (checkEq show_ actual expected what) s fun _ s' => s' = s := by
  rw [checkEq, if_pos h]
  exact quiet_pure rfl

/-! ## Success -/

/-- From a session, the procedure reports its success and nothing else; `R` holds of the session
then. -/
def Succeeds (m : ScenarioM Recorder Unit) (message : String) (s : Session)
    (R : Session → Prop) : Prop :=
  ∃ s', (∀ r log, r.failed = false →
    m ⟨r, s, log⟩ = (.ok (), ⟨r.record .success message, s', log⟩)) ∧ R s'

variable {R : Session → Prop} {message : String}

theorem succeeds_success (h : R s) : Succeeds (success message) message s R := by
  refine ⟨s, fun r log hr => ?_, h⟩
  simp only [success, report, Reporter.success, hr]
  rfl

/-- **Quiet steps before a success are not noticed.** -/
theorem Quiet.succeeds {m : ScenarioM Recorder α} {f : α → ScenarioM Recorder Unit}
    (h : Quiet m s P) (hf : ∀ a s', P a s' → Succeeds (f a) message s' R) :
    Succeeds (m >>= f) message s R := by
  obtain ⟨a, s', hm, hP⟩ := h
  obtain ⟨s'', hfa, hR⟩ := hf a s' hP
  exact ⟨s'', fun r log hr => (bind_of_ok (hm r log)).trans (hfa r log hr), hR⟩

end ScenarioM

/-! ## Sessions with the reference server -/

namespace Session

/-- The reference server is at the other end, and no scope to come has been cancelled. -/
structure Serves (server : ReferenceServer) (s : Session) : Prop where
  server_eq : s.server = .reference server
  unsignalled : ∀ t, s.nextToken ≤ t → s.moment.isCancelled t = false

theorem Serves.kept {server : ReferenceServer} {s s' : Session} (h : s.Serves server)
    (hkept : s.Kept s') : s'.Serves server := by
  refine ⟨hkept.server.trans h.server_eq, fun t ht => ?_⟩
  rw [Moment.isCancelled, hkept.cancelled]
  exact h.unsignalled t (hkept.nextToken ▸ ht)

/-- A session that is ready for a call with some plain options. -/
structure Awaits (server : ReferenceServer) (o : CallOptions) (s : Session) : Prop where
  plain : o.Plain s
  serves : s.Serves server
  vacant : s.Vacant

/-- A session whose only call owes some events, within a scope that nothing triggers. -/
structure Streaming (server : ReferenceServer) (scope : Scope) (F : Forecast)
    (reception : Reception) (ending : Option Item) (id : CallId) (events : List Event)
    (s : Session) : Prop where
  owing : s.Owing F reception ending id events
  idle : scope.Idle s
  serves : s.Serves server

end Session

namespace Scenarios

open ScenarioM

variable {ρ : Type} {server : ReferenceServer} {c : Client} {o : CallOptions} {scope : Scope}
  {F : Forecast} {reception : Reception} {ending : Option Item} {id : CallId}
  {events : List Event} {s : Session}

theorem quiet_plainOptions (h : s.Serves server) (hvacant : s.Vacant) :
    Quiet (ρ := ρ) plainOptions s fun o s' => s'.Awaits server o := by
  have hserves : ({ s with nextToken := s.nextToken + 1 } : Session).Serves server :=
    ⟨h.server_eq, fun t ht => h.unsignalled t (Nat.le_of_succ_le ht)⟩
  exact ⟨⟨.empty, ⟨none, s.nextToken⟩⟩, { s with nextToken := s.nextToken + 1 }, fun _ _ => rfl,
    ⟨rfl, rfl, h.unsignalled _ (Nat.le_refl _)⟩, hserves, hvacant⟩

/-! ### Opening -/

section Opening

variable {invocation : Invocation} {stream : ResponseStream}
  {inbox : Inbox StreamingOutputRequest} {payloads : List Payload}

theorem quiet_serverStreaming (hF : F.Sound) (hreachable : c.reachable = true)
    (h : s.Awaits server o)
    (haccept : (s.accept (c.spec .test invocation o s)).1 =
      ⟨.streaming (some .empty) stream inbox none,
        ⟨invocation, c.target.compression, false⟩, [], 0⟩)
    (hforecast : F payloads ending ⟨Peer.moment s.moment.now, inbox⟩ stream) :
    Quiet (ρ := ρ) (serverStreaming c .test invocation o) s fun r s' => ∃ id,
      r = .ok ⟨Responses.opened id .empty, o.scope⟩ ∧
        s'.Streaming server o.scope F ⟨invocation, c.target.compression, false⟩ ending id
          (Reception.itemEvents ⟨invocation, c.target.compression, false⟩
            (Forecast.items payloads ending)) := by
  obtain ⟨s', hopen, howing, hkept⟩ :=
    c.serverStreaming_owing hF hreachable h.vacant h.plain.idle haccept hforecast
  exact quiet_await hopen ⟨_, rfl, howing, h.plain.idle.kept hkept, h.serves.kept hkept⟩

theorem quiet_bidiStreaming (hF : F.Sound) (hreachable : c.reachable = true)
    (h : s.Awaits server o)
    (haccept : (s.accept (c.spec .test invocation o s)).1 =
      ⟨.streaming (some .empty) stream inbox none,
        ⟨invocation, c.target.compression, false⟩, [], 0⟩)
    (hforecast : F payloads ending ⟨Peer.moment s.moment.now, inbox⟩ stream) :
    Quiet (ρ := ρ) (bidiStreaming c invocation o) s fun r s' => ∃ id,
      r = .ok ⟨some id, Responses.opened id .empty, o.scope⟩ ∧
        s'.Streaming server o.scope F ⟨invocation, c.target.compression, false⟩ ending id
          (Reception.itemEvents ⟨invocation, c.target.compression, false⟩
            (Forecast.items payloads ending)) := by
  obtain ⟨s', hopen, howing, hkept⟩ :=
    c.bidiStreaming_owing hF hreachable h.vacant h.plain.idle haccept hforecast
  exact quiet_await hopen ⟨_, rfl, howing, h.plain.idle.kept hkept, h.serves.kept hkept⟩

end Opening

/-! ### Receiving and sending -/

theorem quiet_receiveServer {st : ServerStream} {m : Reply} (hF : F.Sound)
    (hlive : st.responses.state = .live id)
    (h : s.Streaming server st.scope F reception ending id (.message m :: events)) :
    Quiet (ρ := ρ) (receiveServer st) s fun r s' => r = (.ok (some m), st) ∧
      s'.Streaming server st.scope F reception ending id events := by
  obtain ⟨s', hreceive, howing, hkept⟩ := Responses.receive_message hF hlive h.idle h.owing
  have hserver : st.receive s = (.answered (.ok (some m)), st, s') := by
    rw [ServerStream.receive, hreceive]
  exact quiet_awaitWith hserver ⟨rfl, howing, h.idle.kept hkept, h.serves.kept hkept⟩

theorem quiet_receiveServer_ended {st : ServerStream} {status : Status} (hF : F.Sound)
    (hlive : st.responses.state = .live id)
    (h : s.Streaming server st.scope F reception ending id (.ended status :: events)) :
    Quiet (ρ := ρ) (receiveServer st) s fun r s' => r.1 = status.atEnd ∧ s'.Serves server := by
  obtain ⟨responses, s', hreceive, hkept⟩ :=
    Responses.receive_ended hF hlive h.idle h.owing
  have hserver : st.receive s =
      (.answered status.atEnd, { st with responses := responses }, s') := by
    rw [ServerStream.receive, hreceive]
  exact quiet_awaitWith hserver ⟨rfl, h.serves.kept hkept⟩

theorem quiet_receiveBidi {st : BidiStream} {m : Reply} (hF : F.Sound)
    (hlive : st.responses.state = .live id)
    (h : s.Streaming server st.scope F reception ending id (.message m :: events)) :
    Quiet (ρ := ρ) (receiveBidi st) s fun r s' => r = (.ok (some m), st) ∧
      s'.Streaming server st.scope F reception ending id events := by
  obtain ⟨s', hreceive, howing, hkept⟩ := Responses.receive_message hF hlive h.idle h.owing
  have hbidi : st.receive s = (.answered (.ok (some m)), st, s') := by
    rw [BidiStream.receive, hreceive]
  exact quiet_awaitWith hbidi ⟨rfl, howing, h.idle.kept hkept, h.serves.kept hkept⟩

theorem quiet_receiveBidi_ended {st : BidiStream} {status : Status} (hF : F.Sound)
    (hlive : st.responses.state = .live id)
    (h : s.Streaming server st.scope F reception ending id (.ended status :: events)) :
    Quiet (ρ := ρ) (receiveBidi st) s fun r s' => r.1 = status.atEnd ∧ s'.Serves server := by
  obtain ⟨responses, s', hreceive, hkept⟩ :=
    Responses.receive_ended hF hlive h.idle h.owing
  have hbidi : st.receive s =
      (.answered status.atEnd, { st with responses := responses }, s') := by
    rw [BidiStream.receive, hreceive]
  exact quiet_awaitWith hbidi ⟨rfl, h.serves.kept hkept⟩

theorem quiet_sendBidi {F' : Forecast} {st : BidiStream} {r : StreamingOutputRequest}
    {more : List Payload} (hF : F.Sound) (hsender : st.sender = some id)
    (hfits : reception.compressed = true ∨ r.encodedLength ≤ maxMessageLength)
    (hF' : ∀ payloads w st, F payloads none w st →
      F' (payloads ++ more) none { w with inbox := w.inbox.push (.message r) } st)
    (h : s.Streaming server st.scope F reception none id events) :
    Quiet (ρ := ρ) (sendBidi st r) s fun answer s' => answer = (.ok (), st) ∧
      s'.Streaming server st.scope F' reception none id
        (events ++ reception.itemEvents (more.map .response)) := by
  obtain ⟨s', hsend, howing, hkept⟩ :=
    BidiStream.send_owing hF hsender h.idle hfits hF' h.owing
  exact quiet_awaitWith hsend ⟨rfl, howing, h.idle.kept hkept, h.serves.kept hkept⟩

theorem quiet_closeSend {F' : Forecast} {st : BidiStream} {more : List Payload}
    {ending' : Option Item} (hsender : st.sender = some id)
    (hF' : ∀ payloads w st, F payloads none w st →
      F' (payloads ++ more) ending' { w with inbox := w.inbox.close } st)
    (h : s.Streaming server st.scope F reception none id events) :
    Quiet (ρ := ρ) (closeSend st) s fun st' s' => st' = { st with sender := none } ∧
      s'.Streaming server st'.scope F' reception ending' id
        (events ++ reception.itemEvents (Forecast.items more ending')) := by
  obtain ⟨s', hclose, howing, hkept⟩ := BidiStream.closeSend_owing hsender hF' h.owing
  refine quiet_onSession ?_
  rw [hclose]
  exact ⟨rfl, howing, h.idle.kept hkept, h.serves.kept hkept⟩

/-! ### Checks of what was received -/

variable [Reporter ρ]

theorem quiet_checkLength {p : Option Payload} {size : Int} (h : payloadLength p = wordSize size)
    (what : String) : Quiet (ρ := ρ) (checkLength p size what) s fun _ s' => s' = s :=
  quiet_checkEq Decimal.text h what

theorem quiet_expectResponse {received : Except Status (Option Reply)} {m : Reply}
    (h : received = .ok (some m)) (what : String) :
    Quiet (ρ := ρ) (expectResponse received what) s fun m' s' => m' = m ∧ s' = s := by
  rw [h]
  exact quiet_pure ⟨rfl, rfl⟩

theorem quiet_checkEnd {received : Except Status (Option Reply)} (h : received = .ok none) :
    Quiet (ρ := ρ) (checkEnd received) s fun _ s' => s' = s := by
  rw [h]
  exact quiet_pure rfl

end Scenarios

end RpcConformance
