import RpcConformance.Proofs.InputSum
import RpcConformance.Proofs.JoinedCall

/-!
# A stream of requests and its answer

A client sends many requests on a stream and then joins the call for its single response.  As long
as the scope has not been triggered, the server gets exactly the requests that were sent with
success, and the reference server answers for exactly those: the join finds the answer, which the
server has given when the input ended, or before that if the call ended early.  In a triggered
scope the join fails with the scope's own failure.  So a status of the code Internal, which is what
a stopped call would give, is never the result.

The timeout that a call announces is written in a unit that may be coarser than the deadline, so
the reference server can come to the end of its own time a little before the client does.  Then the
status of the call is that the deadline has passed, which is an answer like any other.

## Main results

* `Slot.sumsKept` — what is kept of a call to the reference server while its client feeds it.
* `joined_of_sums` — what joining such a call gives when its input has ended.
* `Conversation.request_stream_loses_nothing` — requests, answer and status of a stream of requests.
-/

namespace RpcConformance

/-! ## A place in the table of calls -/

variable {spec : CallSpec} {opened : Instant} {requests : List Request} {closed : Bool}
  {m : Moment} {slot : Slot} {s s' : Session} {id : CallId} {r : ReferenceServer}

/-- The scope of a call on the side of the reference server, on which the call began at an
instant. -/
def CallSpec.scopeAt (spec : CallSpec) (begun : Instant) : Scope :=
  Scope.ofMetadata spec.metadata begun 0

/-- A call that has ended for the reference server, or that never reached it. -/
inductive Slot.Done (spec : CallSpec) (opened : Instant) (requests : List Request) (closed : Bool)
    (m : Moment) : Slot → Prop
  | answered {begun : Instant} {c : Call} (hconnected : spec.connected = true)
      (hbegun : opened ≤ begun)
      (h : c.Answered (spec.scopeAt begun) spec.compressed requests closed m.now) :
      Done spec opened requests closed m (.live c)
  | unconnected {unsettled : Nat} (h : spec.connected = false) :
      Done spec opened requests closed m (.live
        ⟨.replying [], summing spec.compressed, [.ended CallSpec.unreachable], unsettled⟩)

/-- A call to the reference server to which some requests have been sent. -/
inductive Slot.Sums (spec : CallSpec) (opened : Instant) (requests : List Request) (closed : Bool)
    (m : Moment) : Slot → Prop
  | queued (h : opened ≤ m.now) : Sums spec opened requests closed m (.queued spec requests closed)
  | live {begun : Instant} {c : Call} (hconnected : spec.connected = true)
      (hbegun : opened ≤ begun)
      (h : c.Sums (spec.scopeAt begun) spec.compressed requests closed m.now) :
      Sums spec opened requests closed m (.live c)
  | done {slot : Slot} (h : slot.Done spec opened requests closed m) :
      Sums spec opened requests closed m slot

/-- The server reads no more of it. -/
theorem Slot.Done.live (h : slot.Done spec opened requests closed m) :
    ∃ c, slot = .live c ∧ c.peer.reads = false := by
  cases h with
  | unconnected => exact ⟨_, rfl, rfl⟩
  | answered _ _ hanswered =>
      cases hanswered with
      | mk => exact ⟨_, rfl, rfl⟩

theorem Slot.Done.unread {c : Call} (h : (Slot.live c).Done spec opened requests closed m) :
    c.peer.reads = false := by
  obtain ⟨c', hlive, hunread⟩ := h.live
  cases hlive
  exact hunread

/-- A call is not done before it has begun. -/
theorem Slot.not_done_queued {spec' : CallSpec} {sent : List Request} {ended : Bool} :
    ¬(Slot.queued spec' sent ended).Done spec opened requests closed m := by
  intro hdone
  obtain ⟨c, hlive, -⟩ := hdone.live
  cases hlive

theorem Slot.Done.mono {m' : Moment} (h : slot.Done spec opened requests closed m)
    (hlater : m.Precedes m') : slot.Done spec opened requests closed m' := by
  cases h with
  | unconnected hnone => exact .unconnected hnone
  | answered hconnected hbegun hanswered =>
      cases hanswered with
      | mk hresult => exact .answered hconnected hbegun (.mk (hresult.mono hlater.now))

theorem Slot.Sums.mono {m' : Moment} (h : slot.Sums spec opened requests closed m)
    (hlater : m.Precedes m') : slot.Sums spec opened requests closed m' := by
  cases h with
  | queued h => exact .queued (Instant.le_trans h hlater.now)
  | live hconnected hbegun hsums => exact .live hconnected hbegun (hsums.mono hlater.now)
  | done hdone => exact .done (hdone.mono hlater)

theorem Slot.Sums.ne_vacant (h : slot.Sums spec opened requests closed m) : slot ≠ .vacant := by
  cases h with
  | queued => exact nofun
  | live => exact nofun
  | done hdone =>
      obtain ⟨c, rfl, -⟩ := hdone.live
      exact nofun

/-- The reference server begins to sum up. -/
theorem accept_summing (hservice : spec.service = .test)
    (hinvocation : spec.invocation = .streamingInputCall) (hserver : s.server = .reference r) :
    (s.accept spec).1 = ⟨.summing (spec.scopeAt s.moment.now) (.start 0)
      (Peer.inboxOf spec.compressed [] false), summing spec.compressed, [], 0⟩ := by
  rcases spec with ⟨service, invocation, md, compressed, connected⟩
  subst hservice hinvocation
  simp only [Session.accept, hserver]
  cases compressed <;> rfl

/-- A queued call begins with the requests that have been sent to it. -/
theorem begun_connected (requests : List Request) (closed : Bool)
    (hservice : spec.service = .test)
    (hinvocation : spec.invocation = .streamingInputCall) (hserver : s.server = .reference r)
    (hconnected : spec.connected = true) :
    ∃ c, s.begun (.queued spec requests closed) = .live c ∧
      c.Sums (spec.scopeAt s.moment.now) spec.compressed requests closed s.moment.now := by
  have haccept := accept_summing hservice hinvocation hserver
  have hbegin : (s.accept spec).1.Sums (spec.scopeAt s.moment.now) spec.compressed [] false
      s.moment.now := by
    rw [haccept]
    exact .reading (List.append_nil _).symm rfl
  have hreads : (s.accept spec).1.peer.reads = true := by
    rw [haccept]
    rfl
  have hpushed := Call.pushAll_induction
    (P := fun requests c =>
      c.Sums (spec.scopeAt s.moment.now) spec.compressed requests false s.moment.now)
    (fun q hreads h => h.push hreads q) hbegin hreads requests
  refine ⟨_, s.begun_queued spec requests closed, ?_⟩
  rw [s.reach_connected hconnected]
  cases closed with
  | false => exact hpushed
  | true => exact hpushed.close

/-- Requests for a call that never reached a server are lost. -/
theorem pushAll_unconnected (compressed : Bool) (waiting : List Event) (unsettled : Nat)
    (more : List Request) :
    more.foldl (fun c r => c.push r)
        (Call.mk (.replying []) (summing compressed) waiting unsettled) =
      Call.mk (.replying []) (summing compressed) waiting (unsettled + more.length) := by
  induction more generalizing unsettled with
  | nil => rfl
  | cons q rest ih =>
      rw [List.foldl_cons, List.length_cons, Nat.add_comm rest.length, ← Nat.add_assoc]
      exact ih (unsettled + 1)

/-- A call without a connection ends as it begins. -/
theorem begun_unconnected (s : Session) (requests : List Request) (closed : Bool)
    (hinvocation : spec.invocation = .streamingInputCall) (hnone : spec.connected = false) :
    ∃ unsettled, s.begun (.queued spec requests closed) = .live ⟨.replying [],
      summing spec.compressed, [.ended CallSpec.unreachable], unsettled⟩ := by
  have hreach : (s.reach spec).1 =
      ⟨.replying [], summing spec.compressed, [.ended CallSpec.unreachable], 0⟩ := by
    rw [Session.reach, hnone, hinvocation]
    rfl
  refine ⟨0 + requests.length, ?_⟩
  rw [Session.begun_queued, hreach, pushAll_unconnected]
  cases closed <;> rfl

theorem Slot.Done.settle (h : (s.slot id).Done spec opened requests closed s.moment) :
    (s.settle.slot id).Done spec opened requests closed s.moment := by
  generalize hslot : s.slot id = slot at h
  cases h with
  | answered hconnected hbegun hanswered =>
      rw [Session.slot_settle_live hslot]
      exact .answered hconnected hbegun (hanswered.advance _)
  | unconnected hnone =>
      rw [Session.slot_settle_live hslot, Call.advance_silent]
      exact .unconnected hnone

/-- **The reference server goes on with the call**, and at the end of the input it is done. -/
theorem Slot.Sums.settle (hservice : spec.service = .test)
    (hinvocation : spec.invocation = .streamingInputCall) (hserver : s.server = .reference r)
    (h : (s.slot id).Sums spec opened requests closed s.moment) :
    (s.settle.slot id).Sums spec opened requests closed s.moment ∧
      (closed = true → (s.settle.slot id).Done spec opened requests closed s.moment) := by
  have hgoesOn : ∀ {begun : Instant} {c : Call}, spec.connected = true → opened ≤ begun →
      c.Sums (spec.scopeAt begun) spec.compressed requests closed s.moment.now →
        (Slot.live (c.advance s.moment.now)).Sums spec opened requests closed s.moment ∧
          (closed = true →
            (Slot.live (c.advance s.moment.now)).Done spec opened requests closed s.moment) := by
    intro begun c hconnected hbegun hsums
    obtain ⟨hafter, hanswered⟩ := hsums.advance
    exact ⟨.live hconnected hbegun hafter,
      fun hclosed => .answered hconnected hbegun (hanswered hclosed)⟩
  generalize hslot : s.slot id = slot at h
  cases h with
  | done hdone =>
      rw [← hslot] at hdone
      exact ⟨.done hdone.settle, fun _ => hdone.settle⟩
  | live hconnected hbegun hsums =>
      rw [Session.slot_settle_live hslot]
      exact hgoesOn hconnected hbegun hsums
  | queued hopened =>
      obtain ⟨s₁, hserver₁, hmoment₁, hsettled⟩ := s.slot_settle id
      rw [hsettled, hslot]
      cases hconnected : spec.connected with
      | true =>
          obtain ⟨c, hbegun, hsums⟩ := begun_connected requests closed hservice hinvocation
            (hserver₁.trans hserver) hconnected
          rw [hmoment₁] at hsums
          rw [hbegun]
          exact hgoesOn hconnected hopened hsums
      | false =>
          obtain ⟨unsettled, hbegun⟩ := begun_unconnected s₁ requests closed hinvocation hconnected
          rw [hbegun, Session.advanceSlot, Call.advance_silent]
          exact ⟨.done (.unconnected hconnected), fun _ => .unconnected hconnected⟩

theorem Slot.Sums.close (h : (s.slot id).Sums spec opened requests false s.moment) :
    ((s.close id).slot id).Sums spec opened requests true s.moment := by
  generalize hslot : s.slot id = slot at h
  cases h with
  | queued hopened =>
      rw [Session.slot_close_queued hslot]
      exact .queued hopened
  | live hconnected hbegun hsums =>
      rw [Session.slot_close_live hslot]
      exact .live hconnected hbegun hsums.close
  | done hdone =>
      cases hdone with
      | answered hconnected hbegun hanswered =>
          rw [Session.slot_close_live hslot]
          cases hanswered with
          | mk hresult => exact .done (.answered hconnected hbegun (.mk hresult.close))
      | unconnected hnone =>
          rw [Session.slot_close_live hslot]
          exact .done (.unconnected hnone)

/-- A call that reads no more requests has ended for the reference server. -/
theorem Slot.Sums.done_of_unread {c : Call}
    (h : (Slot.live c).Sums spec opened requests closed m) (hreads : c.peer.reads = false) :
    (Slot.live c).Done spec opened requests closed m := by
  cases h with
  | done hdone => exact hdone
  | live hconnected hbegun hsums =>
      exact .answered hconnected hbegun (hsums.answered_of_unread hreads)

/-- What is kept of a call to the reference server while its client feeds it: it sums up the
requests that were sent with success, and when one meets the end of the stream it is done. -/
structure Slot.Logged (spec : CallSpec) (opened : Instant) (log : List (Request × ClientAnswer))
    (slot : Slot) (m : Moment) : Prop where
  sums : slot.Sums spec opened (taken log) false m
  answers : ∀ p ∈ log, p.2 = .sent ∨
    p.2 = .sendError .endOfStream ∧ slot.Done spec opened (taken log) false m

namespace Slot.Logged

variable {log : List (Request × ClientAnswer)} {q : Request} {slot' : Slot}

/-- While a call is not done every request has been taken, so the next one is, too. -/
theorem taking (h : slot.Logged spec opened log m)
    (hongoing : ¬slot.Done spec opened (taken log) false m)
    (hsums : slot'.Sums spec opened (taken log ++ [q]) false m) :
    slot'.Logged spec opened (log ++ [(q, .sent)]) m := by
  constructor
  · rw [show taken (log ++ [(q, .sent)]) = _ from taken_concat log q true, if_pos rfl]
    exact hsums
  · intro p hp
    rcases List.mem_append.mp hp with hp | hp
    · exact Or.inl ((h.answers p hp).resolve_right fun hend => hongoing hend.2)
    · rw [List.mem_singleton.mp hp]
      exact Or.inl rfl

/-- A request that is not taken leaves a call that is done as it is. -/
theorem refusing (h : slot.Logged spec opened log m)
    (hdone : slot.Done spec opened (taken log) false m) :
    slot.Logged spec opened (log ++ [(q, .sendError .endOfStream)]) m := by
  have htaken : taken (log ++ [(q, .sendError .endOfStream)]) = taken log :=
    taken_concat log q false
  constructor
  · rw [htaken]
    exact h.sums
  · intro p hp
    rw [htaken]
    rcases List.mem_append.mp hp with hp | hp
    · exact h.answers p hp
    · rw [List.mem_singleton.mp hp]
      exact Or.inr ⟨rfl, hdone⟩

/-- **One request**: it is the next one that the reference server sums up, or the call is done. -/
theorem sent {b : Bool} (hsent : Sent id q s b s')
    (h : (s.slot id).Logged spec opened log s.moment) :
    (s'.slot id).Logged spec opened
      (log ++ [(q, Conversation.sendAnswer (.answered (sendResult b)))]) s.moment := by
  have hid := Session.lt_length_of_slot h.sums.ne_vacant
  cases hsent with
  | lost hvacant => exact absurd hvacant h.sums.ne_vacant
  | unread hslot hreads =>
      rw [hslot] at h ⊢
      exact h.refusing (h.sums.done_of_unread hreads)
  | queued hslot =>
      rw [hslot] at h
      refine h.taking Slot.not_done_queued ?_
      rw [Session.slot_setSlot_self _ hid]
      cases h.sums with
      | queued hopened => exact .queued hopened
      | done hdone => exact absurd hdone Slot.not_done_queued
  | @pushed c hslot hreads =>
      rw [hslot] at h
      have hongoing : ¬(Slot.live c).Done spec opened (taken log) false s.moment := by
        intro hdone
        rw [hdone.unread] at hreads
        cases hreads
      refine h.taking hongoing ?_
      rw [Session.slot_setSlot_self _ hid]
      cases h.sums with
      | live hconnected hbegun hsums => exact .live hconnected hbegun (hsums.push hreads q)
      | done hdone => exact absurd hdone hongoing

end Slot.Logged

/-- **The reference server sums up the requests that were sent with success.** -/
theorem Slot.sumsKept (hservice : spec.service = .test)
    (hinvocation : spec.invocation = .streamingInputCall) :
    Slot.FeedKept (.reference r) (Slot.Logged spec opened) where
  settle hserver h :=
    ⟨(h.sums.settle hservice hinvocation hserver).1,
      fun p hp => (h.answers p hp).imp_right fun hend => ⟨hend.1, hend.2.settle⟩⟩
  pass hlater h :=
    ⟨h.sums.mono hlater,
      fun p hp => (h.answers p hp).imp_right fun hend => ⟨hend.1, hend.2.mono hlater⟩⟩
  sent hsent h := by
    rw [hsent.moment]
    exact h.sent hsent

/-! ## Joining -/

/-- What the reference server answers for some requests, to a call that began no earlier than an
instant. -/
inductive ServerAnswer (spec : CallSpec) (opened now : Instant) (requests : List Request) :
    Except Status SingleResponse → Prop
  | whole (hconnected : spec.connected = true) :
      ServerAnswer spec opened now requests (answerTo spec.compressed requests)
  /-- The announced timeout has passed for the server. -/
  | expired {d : Duration} (hconnected : spec.connected = true)
      (hannounced : Scope.announced spec.metadata = some d) (hpassed : opened.later d ≤ now) :
      ServerAnswer spec opened now requests (.error Scope.expiredStatus)
  | unreachable (hnone : spec.connected = false) :
      ServerAnswer spec opened now requests (.error CallSpec.unreachable)

/-- The reference server never answers with the code Internal. -/
theorem ServerAnswer.code_ne_internal {now : Instant} {st : Status}
    (h : ServerAnswer spec opened now requests (.error st)) : st.code ≠ .internal := by
  generalize hresult : Except.error st = result at h
  cases h with
  | whole => exact answerTo_code_ne_internal hresult.symm
  | expired =>
      cases hresult
      exact nofun
  | unreachable =>
      cases hresult
      exact nofun

/-- What the client finds in a call that is done. -/
theorem Slot.Done.answer (h : slot.Done spec opened requests closed m) :
    ∃ c result, slot = .live c ∧ Single.absorb .unopened c.waiting = .ready result ∧
      ServerAnswer spec opened m.now requests result := by
  cases h with
  | unconnected hnone => exact ⟨_, _, rfl, rfl, .unreachable hnone⟩
  | @answered begun c hconnected hbegun hanswered =>
      have hwhole : ServerAnswer spec opened m.now requests (answerOf (inputSum spec.compressed 0
        requests)) := .whole hconnected
      cases hanswered with
      | mk hresult =>
          refine ⟨_, _, rfl, absorb_ofSum hresult, ?_⟩
          cases hresult with
          | whole _ hsum =>
              rw [hsum] at hwhole
              exact hwhole
          | broken hsum =>
              rw [hsum] at hwhole
              exact hwhole
          | expired hdeadline hpassed =>
              have hdelivered : Scope.expiredStatus.delivered = Scope.expiredStatus := by
                decide +kernel
              obtain ⟨d, hannounced, rfl⟩ := Option.map_eq_some_iff.mp hdeadline
              show ServerAnswer _ _ _ _ (.error Scope.expiredStatus.delivered)
              rw [hdelivered]
              exact .expired hconnected hannounced
                (Instant.le_trans (Nat.add_le_add_right hbegun d.nanos) hpassed)

/-- A call that is done before the end of the input has ended with a status. -/
theorem Slot.Done.ended (h : slot.Done spec opened requests false m) :
    ∃ c status, slot = .live c ∧ c.waiting = [.ended status] := by
  cases h with
  | unconnected => exact ⟨_, _, rfl, rfl⟩
  | answered _ _ hanswered =>
      cases hanswered with
      | @mk result unsettled hresult =>
          cases result with
          | ok total => cases hresult with
            | whole hclosed => cases hclosed
          | error st => exact ⟨_, _, rfl, eventsOf_refusal _ hresult.code_ne_ok⟩

section Joining

variable {scope : Scope}

theorem joinOperation_turn_live {c : Call} (hslot : s.slot id = .live c) (st : Single) :
    (joinOperation id).turn st s =
      (st.absorb c.waiting, s.setSlot id (.live { c with waiting := [] })) := by
  simp only [joinOperation, Single.takeAll, hslot]
  cases st.absorb c.waiting <;> rfl

/-- A call that has its result is joined at once. -/
theorem joined_of_result {c : Call} {result : Except Status SingleResponse}
    (hscope : scope.failure? s.moment = none) (hslot : s.slot id = .live c)
    (hresult : Single.absorb .unopened c.waiting = .ready result) :
    ∃ s', s.run (scope.guard (joinOperation id)) (.fresh .unopened) = (.answered result, s') := by
  have hturn := joinOperation_turn_live hslot .unopened
  rw [hresult] at hturn
  exact ⟨_, Operation.run_guard_of_first (joinOperation id) .unopened hscope hturn rfl⟩

/-- A call without a result goes on, and then it is joined. -/
theorem joined_of_going {s₁ : Session} {result : Except Status SingleResponse} {c : Call}
    (hscope : scope.failure? s.moment = none)
    (hfirst : (joinOperation id).turn .unopened s = (.waiting .unopened, s₁))
    (hmoment : s₁.moment = s.moment) (hslot : s₁.settle.slot id = .live c)
    (hresult : Single.absorb .unopened c.waiting = .ready result) :
    ∃ s', s.run (scope.guard (joinOperation id)) (.fresh .unopened) = (.answered result, s') := by
  have hturn := joinOperation_turn_live hslot .unopened
  rw [hresult] at hturn
  exact ⟨_, Operation.run_guard_of_second (joinOperation id) .unopened hscope hfirst hmoment hturn
    ((Session.moment_settle s₁).trans hmoment)⟩

/-- **What joining a call gives** at the end of its input, in a scope that has not been triggered:
the answer of the reference server. -/
theorem joined_of_sums (hservice : spec.service = .test)
    (hinvocation : spec.invocation = .streamingInputCall) (hserver : s.server = .reference r)
    (hscope : scope.failure? s.moment = none)
    (h : (s.slot id).Sums spec opened requests true s.moment) :
    ∃ result s', ServerAnswer spec opened s.moment.now requests result ∧
      s.run (scope.guard (joinOperation id)) (.fresh .unopened) = (.answered result, s') := by
  have hgoesOn : ∀ s₁ : Session, (joinOperation id).turn .unopened s = (.waiting .unopened, s₁) →
      s₁.server = s.server → s₁.moment = s.moment → s₁.slot id = s.slot id →
        ∃ result s', ServerAnswer spec opened s.moment.now requests result ∧
          s.run (scope.guard (joinOperation id)) (.fresh .unopened) = (.answered result, s') := by
    intro s₁ hfirst hserver₁ hmoment hslot₁
    rw [← hslot₁, ← hmoment] at h
    obtain ⟨-, hdone⟩ := h.settle hservice hinvocation (hserver₁.trans hserver)
    obtain ⟨c, result, hslot, hresult, hanswer⟩ := (hdone rfl).answer
    rw [hmoment] at hanswer
    obtain ⟨s', hrun⟩ := joined_of_going hscope hfirst hmoment hslot hresult
    exact ⟨result, s', hanswer, hrun⟩
  have hatOnce : (s.slot id).Done spec opened requests true s.moment →
      ∃ result s', ServerAnswer spec opened s.moment.now requests result ∧
        s.run (scope.guard (joinOperation id)) (.fresh .unopened) = (.answered result, s') := by
    intro hdone
    obtain ⟨c, result, hslot, hresult, hanswer⟩ := hdone.answer
    obtain ⟨s', hrun⟩ := joined_of_result hscope hslot hresult
    exact ⟨result, s', hanswer, hrun⟩
  have hid := Session.lt_length_of_slot h.ne_vacant
  generalize hslot : s.slot id = slot at h
  cases h with
  | done hdone => exact hatOnce (by rw [hslot]; exact hdone)
  | queued hopened =>
      refine hgoesOn s ?_ rfl rfl rfl
      simp only [joinOperation, Single.takeAll, hslot]
  | live hconnected hbegun hsums =>
      cases hsums with
      | answered hanswered =>
          exact hatOnce (by rw [hslot]; exact .answered hconnected hbegun hanswered)
      | reading =>
          refine hgoesOn _ (joinOperation_turn_live hslot .unopened) rfl rfl ?_
          rw [Session.slot_setSlot_self _ hid, hslot]

/-- **The end of a stream of requests** in a scope that has not been triggered: the answer of the
reference server to the requests that it has got. -/
theorem ClientStream.closeAndReceive_of_sums {st : ClientStream} (hservice : spec.service = .test)
    (hinvocation : spec.invocation = .streamingInputCall) (hserver : s.server = .reference r)
    (hsender : st.sender = some st.call) (hscope : st.scope.failure? s.moment = none)
    (h : (s.slot st.call).Sums spec opened requests false s.moment) :
    ∃ result, ServerAnswer spec opened s.moment.now requests result ∧
      (st.closeAndReceive s).1 = .answered result := by
  have hclosing : st.closing s = s.close st.call := by simp only [closing, hsender]
  have hmoment := s.moment_close st.call
  have hclosed := h.close
  rw [← hmoment] at hclosed
  obtain ⟨result, s', hanswer, hrun⟩ := joined_of_sums hservice hinvocation
    ((s.server_close st.call).trans hserver) (by rw [hmoment]; exact hscope) hclosed
  rw [hmoment] at hanswer
  rw [← hclosing] at hrun
  exact ⟨result, hanswer, by rw [closeAndReceive_eq hrun]⟩

/-- A stream whose call is done gives the status that the call has ended with. -/
theorem ClientStream.closeAndReceive_of_done {st : ClientStream}
    (hsender : st.sender = some st.call) (hscope : st.scope.failure? s.moment = none)
    (h : (s.slot st.call).Done spec opened requests false s.moment) :
    ∃ c status, s.slot st.call = .live c ∧ c.waiting = [.ended status] ∧
      (st.closeAndReceive s).1 = .answered (.error status) := by
  obtain ⟨c, status, hslot, hended⟩ := h.ended
  have hclosed : (st.closing s).slot st.call = .live c.close := by
    simp only [closing, hsender]
    exact Session.slot_close_live hslot
  have hresult : Single.absorb .unopened c.close.waiting = .ready (.error status) := by
    show Single.absorb .unopened c.waiting = _
    rw [hended]
    rfl
  obtain ⟨s', hrun⟩ := joined_of_result (by rw [moment_closing]; exact hscope) hclosed hresult
  exact ⟨c, status, hslot, hended, by rw [closeAndReceive_eq hrun]⟩

end Joining

/-! ## Timeouts -/

/-- Values of one key leave those of another alone. -/
theorem CallOptions.getAll_withAscii {o o' : CallOptions} {key key' value : String}
    (h : o.withAscii key value = .ok o') (hkey : key ≠ key') :
    o'.metadata.getAll key' = o.metadata.getAll key' := by
  obtain ⟨-, rfl⟩ := withAscii_eq_ok h
  exact o.metadata.getAll_append_of_ne _ hkey

/-- Without a deadline a call announces no timeout. -/
theorem CallOptions.announced_of_unlimited {o : CallOptions}
    (hmetadata : o.metadata.getAll Timeout.header = []) (hdeadline : o.scope.deadline = none)
    (m : Moment) : Scope.announced (o.requestMetadata m) = none := by
  have hremaining : o.scope.remaining m = none := by
    rw [Scope.remaining, hdeadline]
    rfl
  rw [requestMetadata, hremaining]
  show ((((o.metadata.getAll Timeout.header).head?).bind _).bind _) = none
  rw [hmetadata]
  rfl

theorem CallOptions.getAll_foldl_withBinary (o : CallOptions) {key key' : String}
    (hkey : key ≠ key') (values : List (List UInt8)) :
    (values.foldl (fun o v => o.withBinary key v) o).metadata.getAll key' =
      o.metadata.getAll key' := by
  induction values generalizing o with
  | nil => rfl
  | cons v rest ih =>
      rw [List.foldl_cons, ih]
      exact o.metadata.getAll_append_of_ne _ hkey

theorem CallOptions.getAll_foldl_withAscii {base : Except AsciiValueError CallOptions}
    {o' : CallOptions} {key key' : String} (hkey : key ≠ key') {values : List String}
    (h : values.foldl (fun o v => o.bind fun o => o.withAscii key v) base = .ok o') :
    ∃ o, base = .ok o ∧ o'.metadata.getAll key' = o.metadata.getAll key' := by
  induction values generalizing base with
  | nil => exact ⟨o', h, rfl⟩
  | cons v rest ih =>
      obtain ⟨o₁, hfirst, hrest⟩ := ih h
      cases base with
      | error e => cases hfirst
      | ok o => exact ⟨o, rfl, hrest.trans (getAll_withAscii hfirst hkey)⟩

/-- The choices of a call hold no timeout. -/
theorem Conversation.options_metadata {k : Conversation} {choices : CallChoices} {o : CallOptions}
    (h : k.options choices = (.ok o, s)) : o.metadata.getAll Timeout.header = [] := by
  have hfirst := congrArg Prod.fst h
  simp only [options] at hfirst
  generalize hbase : choices.ascii.foldl (fun (o : Except AsciiValueError CallOptions) v =>
    o.bind fun o => o.withAscii Agreed.leadingKey v) _ = base at hfirst
  cases base with
  | error e => cases hfirst
  | ok o₁ =>
      obtain ⟨o₀, hempty, hascii⟩ := CallOptions.getAll_foldl_withAscii Echo.keys_ne.2.1.symm hbase
      cases hempty
      cases hfirst
      rw [CallOptions.getAll_foldl_withBinary _ Echo.keys_ne.2.2.symm, hascii]
      rfl

/-! ## Histories -/

/-- The requests that were sent, when all of them were sent with success. -/
theorem taken_of_sent {log : List (Request × ClientAnswer)} (h : ∀ p ∈ log, p.2 = .sent) :
    taken log = log.map Prod.fst := by
  induction log with
  | nil => rfl
  | cons p rest ih =>
      obtain ⟨q, answer⟩ := p
      have hfirst : answer = .sent := h _ List.mem_cons_self
      subst hfirst
      have hrest := ih fun p hp => h p (List.mem_cons_of_mem _ hp)
      rw [taken, List.filterMap_cons, List.map_cons, ← hrest]
      rfl

namespace Conversation

variable {k k' : Conversation} {n : Nat} {actions : List ClientAction} {server : Backend}
  {scope : Scope} {service : ServiceName} {choices : CallChoices} {st : ClientStream}

/-- The requests of a history for a stream. -/
def requestsOn (n : Nat) (actions : List ClientAction) : List Request :=
  actions.filterMap fun
    | .send m q => if m = n then some q else none
    | _ => none

theorem sends_requests (n : Nat) (k : Conversation) (actions : List ClientAction) :
    (sends n k actions).map Prod.fst = requestsOn n actions := by
  induction actions generalizing k with
  | nil => rfl
  | cons a rest ih =>
      have hfirst : (k.sendIn n a).map Prod.fst = requestsOn n [a] := by
        cases a with
        | send m q =>
            simp only [sendIn, requestsOn, List.filterMap_cons, List.filterMap_nil]
            split <;> rfl
        | _ => rfl
      rw [sends, List.map_append, ih, hfirst]
      exact List.filterMap_append.symm

/-- What a client learns at the end of a stream of requests. -/
def joinAnswer : Except Status SingleResponse → ClientAnswer
  | .ok r => .unary r
  | .error st => .failed st

theorem closeAndReceive_answer {result : Except Status SingleResponse}
    (hstream : k.stream? n = some (.client st))
    (h : (st.closeAndReceive k.session).1 = .answered result) :
    (k.perform (.closeAndReceive n)).1 = joinAnswer result := by
  rcases hclose : st.closeAndReceive k.session with ⟨answer, s'⟩
  rw [hclose] at h
  subst h
  cases result <;> simp only [perform, hstream, hclose, joinAnswer]

/-- From its opening on a client feeds the call. -/
theorem feeding_opened (horderly : k.Orderly) (hserver : k.session.server = server)
    (hopened : k.perform (.call service .streamingInputCall choices) = (.stream n, k')) :
    ∃ o s, k.options choices = (.ok o, s) ∧ s.moment = k'.session.moment ∧
      ∀ P : List (Request × ClientAnswer) → Slot → Moment → Prop,
        P [] (.queued (k.client.spec .test .streamingInputCall o s) [] false) s.moment →
          k'.Feeding P server n s.slots.length o.scope [] := by
  obtain ⟨o, s, hoptions, hstream, hsession⟩ := opened_client hopened rfl
  have hnew : s = (k.session.newScope none).2 := (congrArg Prod.snd hoptions).symm
  have hslot : k'.session.slot s.slots.length =
      .queued (k.client.spec .test .streamingInputCall o s) [] false := by
    have hlast := List.getD_append_right s.slots
      [.queued (k.client.spec .test .streamingInputCall o s) [] false] .vacant s.slots.length
      (Nat.le_refl _)
    rw [Nat.sub_self] at hlast
    rw [hsession]
    exact hlast
  have hmoment : s.moment = k'.session.moment := by
    rw [hsession]
    rfl
  refine ⟨o, s, hoptions, hmoment, fun P hP => ⟨?_, ?_, _, hstream, rfl, rfl, fun _ => ⟨rfl, ?_⟩⟩⟩
  · have horderly' := horderly.perform (.call service .streamingInputCall choices)
    rw [hopened] at horderly'
    exact horderly'
  · rw [hsession, ← hserver, hnew]
    rfl
  · rw [hslot, ← hmoment]
    exact hP

/-- What a client gets of a call to the reference server at the end of its requests, with a log of
what it has learned of each. -/
structure ResultKept (spec : CallSpec) (opened : Instant) (log : List (Request × ClientAnswer))
    (n : Nat) (st : ClientStream) (k : Conversation) : Prop where
  answered : st.scope.failure? k.session.moment = none →
    ∃ result, ServerAnswer spec opened k.session.moment.now (taken log) result ∧
      (k.perform (.closeAndReceive n)).1 = joinAnswer result
  unlimited : st.scope.failure? k.session.moment = none → st.scope.deadline = none →
    spec.connected = true →
      (k.perform (.closeAndReceive n)).1 = joinAnswer (answerTo spec.compressed (taken log))
  /-- A request that was not taken means that the call has ended, with the status that the client
  gets. -/
  ended : st.scope.failure? k.session.moment = none →
    (∃ p ∈ log, p.2 = .sendError .endOfStream) →
      ∃ c status, k.session.slot st.call = .live c ∧ c.waiting = [.ended status] ∧
        (k.perform (.closeAndReceive n)).1 = .failed status
  /-- In whatever scope. -/
  code : ∃ result, (k.perform (.closeAndReceive n)).1 = joinAnswer result ∧
    ∀ own, result = .error own → own.code ≠ .internal

/-- What has become of a stream of requests and of the call that they are for. -/
structure NothingLost (server : Backend) (spec : CallSpec) (opened : Instant)
    (requests : List Request) (log : List (Request × ClientAnswer)) (n : Nat) (st : ClientStream)
    (k : Conversation) : Prop where
  /-- Each request is taken, or the call has ended. -/
  answers : st.scope.failure? k.session.moment = none →
    ∀ p ∈ log, p.2 = .sent ∨ p.2 = .sendError .endOfStream
  everything : (∀ p ∈ log, p.2 = .sent) → taken log = requests
  /-- The server gets the requests that were taken, and behind them the end of its input. -/
  received : st.scope.failure? k.session.moment = none →
    ((st.closing k.session).slot st.call).Fed server spec (taken log) true
  result : ∀ r, server = .reference r → ResultKept spec opened log n st k
  /-- The status of a stopped call does not matter, in whatever scope and with whatever server. -/
  unaborted : ∀ stopped, st.closeAndReceiveOr stopped k.session = st.closeAndReceive k.session

theorem Feeding.resultKept (h : k.Feeding (Slot.Logged spec opened) (.reference r) n id scope log)
    (hservice : spec.service = .test) (hinvocation : spec.invocation = .streamingInputCall)
    (hstream : k.stream? n = some (.client st))
    (hunlimited : st.scope.deadline = none → Scope.announced spec.metadata = none) :
    ResultKept spec opened log n st k := by
  have hanswered : st.scope.failure? k.session.moment = none →
      ∃ result, ServerAnswer spec opened k.session.moment.now (taken log) result ∧
        (k.perform (.closeAndReceive n)).1 = joinAnswer result := by
    intro huntriggered
    obtain ⟨hsender, hlogged⟩ := h.kept hstream huntriggered
    obtain ⟨result, hanswer, hclose⟩ := ClientStream.closeAndReceive_of_sums hservice hinvocation
      h.server hsender huntriggered hlogged.sums
    exact ⟨result, hanswer, closeAndReceive_answer hstream hclose⟩
  refine ⟨hanswered, ?_, ?_, ?_⟩
  · intro huntriggered hdeadline hconnected
    obtain ⟨result, hanswer, hclose⟩ := hanswered huntriggered
    cases hanswer with
    | whole => exact hclose
    | expired _ hannounced =>
        rw [hunlimited hdeadline] at hannounced
        cases hannounced
    | unreachable hnone =>
        rw [hconnected] at hnone
        cases hnone
  · rintro huntriggered ⟨p, hp, hend⟩
    obtain ⟨hsender, hlogged⟩ := h.kept hstream huntriggered
    have hdone := (hlogged.answers p hp).resolve_left (by rw [hend]; exact nofun)
    obtain ⟨c, status, hslot, hwaiting, hclose⟩ :=
      ClientStream.closeAndReceive_of_done hsender huntriggered hdone.2
    exact ⟨c, status, hslot, hwaiting, closeAndReceive_answer hstream hclose⟩
  · cases hscope : st.scope.failure? k.session.moment with
    | none =>
        obtain ⟨result, hanswer, hclose⟩ := hanswered hscope
        refine ⟨result, hclose, fun own hown => ?_⟩
        rw [hown] at hanswer
        exact hanswer.code_ne_internal
    | some own =>
        have hclose := ClientStream.closeAndReceive_of_triggered hscope
        refine ⟨_, closeAndReceive_answer hstream hclose, fun own' hown => ?_⟩
        cases hown
        rcases Scope.failure?_cases hscope with rfl | rfl <;> exact nofun

/-- **A stream of requests loses neither requests nor the result of its call**, from its opening
until it is used up and whatever else the client does in between. -/
theorem request_stream_loses_nothing {client : Client} {before : List ClientAction}
    (hopened : ((start client server).performed before).perform
      (.call service .streamingInputCall choices) = (.stream n, k'))
    (hdrop : .drop n ∉ actions) (hclose : .closeAndReceive n ∉ actions) :
    ∃ o s st, ((start client server).performed before).options choices = (.ok o, s) ∧
      (k'.performed actions).stream? n = some (.client st) ∧ st.scope = o.scope ∧
      NothingLost server
        (((start client server).performed before).client.spec .test .streamingInputCall o s)
        k'.session.moment.now (requestsOn n actions) (sends n k' actions) n st
        (k'.performed actions) := by
  have hserver : ((start client server).performed before).session.server = server :=
    server_performed (start client server) before
  obtain ⟨o, s, hoptions, hmoment, hfeeding⟩ :=
    feeding_opened (orderly_performed client server before) hserver hopened
  have hunlimited := CallOptions.announced_of_unlimited (options_metadata hoptions)
  generalize hspec : ((start client server).performed before).client.spec .test .streamingInputCall
    o s = spec at hfeeding
  have hservice : spec.service = .test := by rw [← hspec]; rfl
  have hinvocation : spec.invocation = .streamingInputCall := by rw [← hspec]; rfl
  have hfed := (hfeeding _ .queued).performed (Slot.fedKept hservice hinvocation) hdrop hclose
  have hanswers := (hfeeding _ (List.forall_mem_nil _)).performed
    (Slot.answersKept server) hdrop hclose
  rw [List.nil_append] at hfed hanswers
  obtain ⟨st, hstream, hcall, hscope, -⟩ := hfed.stream
  refine ⟨o, s, st, hoptions, hstream, hscope, ?_⟩
  rw [hspec]
  constructor
  · intro huntriggered
    exact (hanswers.kept hstream huntriggered).2
  · intro hsent
    rw [taken_of_sent hsent, sends_requests]
  · intro huntriggered
    obtain ⟨hsender, hslot⟩ := hfed.kept hstream huntriggered
    simp only [ClientStream.closing, hsender]
    exact hslot.close
  · rintro r rfl
    have hlogged := (hfeeding (Slot.Logged spec k'.session.moment.now)
      ⟨.queued (by rw [hmoment]; exact Instant.le_refl _), List.forall_mem_nil _⟩).performed
        (Slot.sumsKept hservice hinvocation) hdrop hclose
    rw [List.nil_append] at hlogged
    refine hlogged.resultKept hservice hinvocation hstream fun hdeadline => ?_
    rw [hscope] at hdeadline
    rw [← hspec]
    exact hunlimited hdeadline s.moment
  · intro stopped
    exact ClientStream.closeAndReceiveOr_eq
      (fun huntriggered => (hfed.kept hstream huntriggered).2.ne_vacant) stopped

namespace InputSample

/-- A client of a reference server. -/
def beginning : Conversation := start ⟨{}, true⟩ (.reference ⟨"server", "localhost"⟩)

/-- It has opened a stream of requests. -/
def asking : Conversation := (beginning.perform (.call .test .streamingInputCall {})).2

/-- More requests than a buffer holds, each with three bytes. -/
def history : List ClientAction :=
  List.replicate 20 (.send 0 (.input { payload := some ⟨Payload.compressable, [1, 2, 3]⟩ }))

/-- Whether a request has been sent with success. -/
def isSent : ClientAnswer → Bool
  | .sent => true
  | _ => false

theorem sent_of_isSent {answer : ClientAnswer} (h : isSent answer = true) : answer = .sent := by
  cases answer <;> first | rfl | cases h

end InputSample

open InputSample in
/-- Twenty requests are sent, and the answer counts the bytes in all of them. -/
theorem sampleInput_answered :
    (beginning.perform (.call .test .streamingInputCall {})).1 = .stream 0 ∧
      (∀ p ∈ sends 0 asking history, p.2 = .sent) ∧
      ((asking.performed history).perform (.closeAndReceive 0)).1 =
        .unary ⟨.aggregate 60, .empty, .empty⟩ := by
  have hopened : (beginning.performed []).perform (.call .test .streamingInputCall {}) =
      (.stream 0, asking) := rfl
  have hdrop : ClientAction.drop 0 ∉ history := by simp [history]
  have hclose : ClientAction.closeAndReceive 0 ∉ history := by simp [history]
  obtain ⟨o, s, st, hoptions, -, hscope, hkept⟩ :=
    request_stream_loses_nothing hopened hdrop hclose
  have hsent : ∀ p ∈ sends 0 asking history, p.2 = .sent := by
    have hall : (sends 0 asking history).all (fun p => isSent p.2) = true := by decide +kernel
    exact fun p hp => sent_of_isSent (List.all_eq_true.mp hall p hp)
  have hmoment : (asking.performed history).session.moment = .start := by decide +kernel
  have hshort : ∀ q ∈ requestsOn 0 history, ¬q.IsLong false := by decide +kernel
  have hanswer : answerTo false (requestsOn 0 history) = .ok ⟨.aggregate 60, .empty, .empty⟩ := by
    rw [answerTo, inputSum_of_short hshort]
    rfl
  cases hoptions
  have hclosed := (hkept.result _ rfl).unlimited (by rw [hscope, hmoment]; rfl)
    (by rw [hscope]; rfl) rfl
  rw [hkept.everything hsent] at hclosed
  rw [hclosed]
  exact ⟨rfl, hsent, congrArg joinAnswer hanswer⟩

end Conversation

end RpcConformance
