import RpcConformance.Proofs.ClientFrame

/-!
# Sending requests

A request waits for room only until the server has gone on with the call: a call that has just
gone on has room for a whole buffer.  So a request in a scope that has not been triggered is
answered in one round and without any time passing, and sending fails for no other reason than a
scope that was triggered before it began.

## Main results

* `run_send` — what sending a request gives in a scope that has not been triggered.
* `BidiStream.send_of_triggered` and `ClientStream.send_of_triggered` — what it gives in one that
  has been.
-/

namespace RpcConformance

variable {id : CallId} {q : Request} {s s' : Session} {scope : Scope}

/-! ## One request -/

/-- What a request that need not wait comes to: whether it has been taken, and the session
afterwards. -/
inductive Sent (id : CallId) (q : Request) (s : Session) : Bool → Session → Prop
  | lost (h : s.slot id = .vacant) : Sent id q s false s
  /-- The server reads no more requests. -/
  | unread {c : Call} (h : s.slot id = .live c) (hreads : c.peer.reads = false) :
      Sent id q s false s
  | queued {spec : CallSpec} {requests : List Request} {closed : Bool}
      (h : s.slot id = .queued spec requests closed) (hroom : requests.length < Call.bufferSize) :
      Sent id q s true (s.setSlot id (.queued spec (requests ++ [q]) closed))
  | pushed {c : Call} (h : s.slot id = .live c) (hreads : c.peer.reads = true) :
      Sent id q s true (s.setSlot id (.live (c.push q)))

theorem Sent.moment {b : Bool} (h : Sent id q s b s') : s'.moment = s.moment := by
  cases h <;> rfl

theorem Sent.length {b : Bool} (h : Sent id q s b s') : s'.slots.length = s.slots.length := by
  cases h with
  | lost => rfl
  | unread => rfl
  | queued => exact List.length_set
  | pushed => exact List.length_set

theorem sendOperation_turn (id : CallId) (q : Request) (s : Session) :
    (sendOperation id q).turn () s = (.waiting (), s) ∨
      ∃ b s', (sendOperation id q).turn () s = (.ready (.ok b), s') ∧ Sent id q s b s' := by
  cases hslot : s.slot id with
  | vacant => exact Or.inr ⟨false, s, by simp [sendOperation, hslot], .lost hslot⟩
  | queued spec requests closed =>
      by_cases hroom : requests.length < Call.bufferSize
      · exact Or.inr ⟨true, _, by simp [sendOperation, hslot, hroom], .queued hslot hroom⟩
      · exact Or.inl (by simp [sendOperation, hslot, hroom])
  | live c =>
      cases hreads : c.peer.reads with
      | false =>
          exact Or.inr ⟨false, s, by simp [sendOperation, hslot, hreads], .unread hslot hreads⟩
      | true =>
          by_cases hroom : c.hasRoom = true
          · exact Or.inr ⟨true, _, by simp [sendOperation, hslot, hreads, hroom],
              .pushed hslot hreads⟩
          · exact Or.inl (by simp [sendOperation, hslot, hreads, hroom])

/-- Where calls have just gone on there is room. -/
theorem sendOperation_turn_settle (id : CallId) (q : Request) (s : Session) :
    ∃ b s', (sendOperation id q).turn () s.settle = (.ready (.ok b), s') ∧
      Sent id q s.settle b s' := by
  refine (sendOperation_turn id q s.settle).resolve_left fun hwaits => ?_
  obtain ⟨s₁, _, _, hslot⟩ := s.slot_settle id
  have hroom : ∀ c : Call, (c.advance s.moment.now).hasRoom = true := fun _ => rfl
  cases hbegun : s₁.begun (s.slot id) with
  | vacant =>
      have hsettled : s.settle.slot id = .vacant := by rw [hslot, hbegun]; rfl
      simp only [sendOperation, hsettled] at hwaits
      cases hwaits
  | queued spec requests closed =>
      cases hbefore : s.slot id <;> rw [hbefore] at hbegun <;> cases hbegun
  | live c =>
      have hsettled : s.settle.slot id = .live (c.advance s.moment.now) := by
        rw [hslot, hbegun]; rfl
      simp only [sendOperation, hsettled, hroom, if_true] at hwaits
      cases hreads : (c.advance s.moment.now).peer.reads <;> rw [hreads] at hwaits <;> cases hwaits

/-- **What sending a request gives** in a scope that has not been triggered: it is taken or not,
at once or when the calls have gone on. -/
theorem run_send (id : CallId) (q : Request) (hscope : scope.failure? s.moment = none) :
    ∃ b s', s.run (scope.guard (sendOperation id q)) (.fresh ()) = (.answered (.ok b), s') ∧
      (Sent id q s b s' ∨ Sent id q s.settle b s') := by
  rcases sendOperation_turn id q s with hwaits | ⟨b, s', hturn, hsent⟩
  · obtain ⟨b, s', hturn, hsent⟩ := sendOperation_turn_settle id q s
    have hmoment : s'.moment = s.moment := hsent.moment.trans s.moment_settle
    exact ⟨b, s', Operation.run_guard_of_second (sendOperation id q) () hscope hwaits rfl hturn
      hmoment, Or.inr hsent⟩
  · exact ⟨b, s', Operation.run_guard_of_first (sendOperation id q) () hscope hturn hsent.moment,
      Or.inl hsent⟩

/-! ## Streams -/

/-- What a stream answers to a request that has been taken or not. -/
def sendResult (taken : Bool) : Except SendError Unit :=
  if taken then .ok () else .error .endOfStream

namespace BidiStream

variable {st : BidiStream}

theorem send_of_closed (h : st.sender = none) (q : Request) (s : Session) :
    st.send q s = (.answered (.error .closed), st, s) := by
  simp only [send, h]

/-- A triggered scope ends the stream with its own failure, and nothing is sent. -/
theorem send_of_triggered (h : st.sender = some id) {own : Status}
    (hscope : st.scope.failure? s.moment = some own) (q : Request) :
    st.send q s = (.answered (.error .endOfStream),
      { st with sender := none, responses := st.responses.fail own }, st.responses.drop s) := by
  have hrun := Operation.run_guard_of_triggered (sendOperation id q) () hscope
  simp only [send, h, hrun]

/-- Otherwise the stream stays as it is. -/
theorem send_of_untriggered (h : st.sender = some id) (hscope : st.scope.failure? s.moment = none)
    (q : Request) : ∃ b s', st.send q s = (.answered (sendResult b), st, s') ∧
      (Sent id q s b s' ∨ Sent id q s.settle b s') := by
  obtain ⟨b, s', hrun, hsent⟩ := run_send id q hscope
  refine ⟨b, s', ?_, hsent⟩
  cases b <;> simp only [send, h, hrun] <;> rfl

end BidiStream

namespace ClientStream

variable {st : ClientStream}

theorem send_of_closed (h : st.sender = none) (q : Request) (s : Session) :
    st.send q s = (.answered (.error .closed), st, s) := by
  simp only [send, h]

/-- A triggered scope stops the call, and nothing is sent. -/
theorem send_of_triggered (h : st.sender = some id) {own : Status}
    (hscope : st.scope.failure? s.moment = some own) (q : Request) :
    st.send q s = (.answered (.error .endOfStream), { st with sender := none },
      s.abandon st.call) := by
  have hrun := Operation.run_guard_of_triggered (sendOperation id q) () hscope
  simp only [send, h, hrun]

/-- Otherwise the stream stays as it is. -/
theorem send_of_untriggered (h : st.sender = some id) (hscope : st.scope.failure? s.moment = none)
    (q : Request) : ∃ b s', st.send q s = (.answered (sendResult b), st, s') ∧
      (Sent id q s b s' ∨ Sent id q s.settle b s') := by
  obtain ⟨b, s', hrun, hsent⟩ := run_send id q hscope
  refine ⟨b, s', ?_, hsent⟩
  cases b <;> simp only [send, h, hrun] <;> rfl

theorem scope_send (st : ClientStream) (q : Request) (s : Session) :
    (st.send q s).2.1.scope = st.scope := by
  unfold send
  split
  · rfl
  · split <;> rfl

end ClientStream

/-! ## Streams of requests in a history -/

namespace Conversation

variable {k k' : Conversation} {n : Nat} {st : ClientStream} {a : ClientAction}

theorem perform_send_client (hstream : k.stream? n = some (.client st)) (q : Request) :
    k.perform (.send n q) = (sendAnswer (st.send q k.session).1,
      k.setStream n (.client (st.send q k.session).2.1) (st.send q k.session).2.2) := by
  simp only [perform, send, hstream]

/-- As long as a stream of requests is not used up, nothing but sending concerns it. -/
theorem client_step (hstream : k.stream? n = some (.client st)) (hdrop : a ≠ .drop n)
    (hclose : a ≠ .closeAndReceive n) :
    a.stream? ≠ some n ∨ (k.perform a).2 = k ∨ ∃ q, a = .send n q := by
  have hdeaf : k.receive n = (none, k) := by simp only [receive, hstream]
  by_cases hon : a.stream? = some n
  case neg => exact Or.inl hon
  refine Or.inr ?_
  cases a with
  | scope | cancel | sleep | reconnect | call => cases hon
  | drop m => cases hon; exact absurd rfl hdrop
  | closeAndReceive m => cases hon; exact absurd rfl hclose
  | send m q => cases hon; exact Or.inr ⟨q, rfl⟩
  | closeSend m => cases hon; exact Or.inl (by simp only [perform, hstream])
  | receive m => cases hon; exact Or.inl (by simp only [perform, hdeaf])
  | receiveAll m => cases hon; exact Or.inl (by simp only [perform, receiveAll, hdeaf])
  | metadata m => cases hon; exact Or.inl (by simp only [perform, hstream])

/-- A history keeps the call and the scope of a stream of requests. -/
theorem performed_client (hstream : k.stream? n = some (.client st)) {actions : List ClientAction}
    (hdrop : .drop n ∉ actions) (hclose : .closeAndReceive n ∉ actions) :
    ∃ st' : ClientStream, (k.performed actions).stream? n = some (.client st') ∧
      st'.call = st.call ∧ st'.scope = st.scope := by
  induction actions generalizing k st with
  | nil => exact ⟨st, hstream, rfl, rfl⟩
  | cons a rest ih =>
      obtain ⟨ha, hrest⟩ := not_or.mp (List.mem_cons.not.mp hdrop)
      obtain ⟨ha', hrest'⟩ := not_or.mp (List.mem_cons.not.mp hclose)
      rcases client_step hstream (Ne.symm ha) (Ne.symm ha') with hon | hsame | ⟨q, rfl⟩
      · exact ih (perform_keeps hon hstream) hrest hrest'
      · exact ih (show (k.perform a).2.stream? n = _ by rw [hsame, hstream]) hrest hrest'
      · have hafter : (k.perform (.send n q)).2.stream? n =
            some (.client (st.send q k.session).2.1) := by
          rw [perform_send_client hstream]
          exact stream?_setStream hstream _ _
        obtain ⟨st', hstream', hcall, hscope⟩ := ih hafter hrest hrest'
        exact ⟨st', hstream', hcall.trans (st.call_send q k.session),
          hscope.trans (st.scope_send q k.session)⟩

/-- A stream of requests begins with a queued call, which it feeds in the scope of its options. -/
theorem opened_client {service : ServiceName} {invocation : Invocation} {choices : CallChoices}
    (h : k.perform (.call service invocation choices) = (.stream n, k'))
    (hshape : invocation.shape = .clientStreaming) :
    ∃ o s, k.options choices = (.ok o, s) ∧
      k'.stream? n = some (.client ⟨some s.slots.length, s.slots.length, o.scope⟩) ∧
      k'.session = (s.enqueue (k.client.spec .test .streamingInputCall o s)).2 := by
  change k.call service invocation choices = (.stream n, k') at h
  unfold call at h
  split at h
  · cases h
  · rename_i o s hoptions
    simp only [hshape] at h
    rw [k.client.clientStreaming_eq o s] at h
    cases h
    exact ⟨o, s, hoptions, List.getElem?_concat_length, rfl⟩

end Conversation

end RpcConformance
