import RpcConformance.Proofs.StreamOutcome

/-!
# What a client finds in a triggered scope

Once the scope of a call has been triggered, the next operation of the call fails with the scope's
own failure, and it fails before it does anything: no call begins, no request is sent, and nothing
is taken of what the server has answered in the meantime.  A guard looks at its scope before it
polls the operation inside, so this is the same for every server, and there is nothing to prove
about one.

Each kind of operation routes the failure differently.  A call that is opened reports it, a receive
reports it and keeps it as the outcome of the stream, and a request reports the end of the stream:
on a stream in both directions the failure becomes the outcome that the next receive gives, and on
a stream of requests the call is stopped.

## Main results

* `Client.unary_of_triggered`, `Client.openCall_of_triggered`, `Responses.receive_of_triggered` and
  `ClientStream.closeAndReceive_of_triggered` — one operation in a triggered scope.
* `Conversation.triggered_scope_is_seen` — what a client finds at any instant of a call.
-/

namespace RpcConformance

/-! ## The failure of a scope -/

namespace Scope

/-- The signal of a scope has been given, or its deadline has been reached. -/
def Triggered (s : Scope) (m : Moment) : Prop := s.isCancelled m = true ∨ s.isExpired m = true

/-- The failure of a triggered scope: the signal counts more than the deadline. -/
def verdict (s : Scope) (m : Moment) : Status :=
  if s.isCancelled m then cancelledStatus else expiredStatus

theorem failure?_of_triggered {s : Scope} {m : Moment} (h : s.Triggered m) :
    s.failure? m = some (s.verdict m) := by
  cases hc : s.isCancelled m with
  | true => rw [failure?_of_isCancelled hc, verdict, if_pos hc]
  | false =>
      have hexpired : s.isExpired m = true :=
        h.resolve_left fun hcancelled => by rw [hc] at hcancelled; cases hcancelled
      rw [failure?_of_isExpired hc hexpired, verdict, hc]
      rfl

end Scope

/-! ## Nothing is sent -/

/-- Nothing has been sent to any call: none has begun, no time has passed, and each call has been
left alone or given up. -/
structure Session.Unsent (s s' : Session) : Prop where
  seen : s'.seen = s.seen
  moment : s'.moment = s.moment
  slot : ∀ id, s'.slot id = s.slot id ∨ s'.slot id = .vacant

variable {s : Session} {scope : Scope} {own : Status}

theorem Session.unsent_abandon (s : Session) (id : CallId) : s.Unsent (s.abandon id) := by
  refine ⟨rfl, rfl, fun id' => ?_⟩
  by_cases hsame : id = id'
  · subst hsame
    by_cases hid : id < s.slots.length
    · exact Or.inr (slot_setSlot_self _ hid)
    · have hlength : (s.abandon id).slots.length ≤ id := by
        rw [show (s.abandon id).slots.length = s.slots.length from List.length_set]
        exact Nat.not_lt.mp hid
      exact Or.inr (slot_of_length_le hlength)
  · exact Or.inl (slot_setSlot_of_ne s _ hsame)

/-- To give up a call that has not begun is to do nothing. -/
theorem Session.abandon_length (s : Session) : s.abandon s.slots.length = s := by
  have hslots : s.slots.set s.slots.length .vacant = s.slots :=
    List.set_eq_of_length_le (Nat.le_refl _)
  rw [abandon, setSlot, hslots]

theorem Responses.unsent_drop (r : Responses) (s : Session) : s.Unsent (r.drop s) := by
  unfold drop
  split
  · exact s.unsent_abandon _
  · exact ⟨rfl, rfl, fun _ => Or.inl rfl⟩

/-! ## One operation -/

namespace Client

variable (c : Client) (service : ServiceName) (invocation : Invocation) {o : CallOptions}

/-- A call with a single response fails and does not begin.  Only its lag passes. -/
theorem unary_of_triggered (h : o.scope.failure? s.moment = some own) :
    c.unary service invocation o s =
      (.answered (.error own), if c.reachable then s.delay else s) := by
  rw [unary_eq]
  cases c.reachable with
  | true =>
      have hrun := Operation.run_guard_of_triggered unaryOperation
        (.unsent (c.spec service invocation o s)) h
      simp only [if_true, hrun, s.abandon_length]
  | false => exact Operation.run_guard_of_triggered failing () h

/-- A stream is not opened, and its call does not begin. -/
theorem openCall_of_triggered (h : o.scope.failure? s.moment = some own) :
    c.openCall service invocation o s = (.answered (.error own), s) := by
  rw [openCall_eq]
  cases c.reachable with
  | true =>
      have hrun := Operation.run_guard_of_triggered openOperation
        (.unsent (c.spec service invocation o s)) h
      simp only [if_true, hrun, s.abandon_length]
  | false => exact Operation.run_guard_of_triggered failing () h

end Client

/-- A stream without an outcome fails, whatever waits to be received. -/
theorem Responses.receive_of_triggered {r : Responses} (hopen : r.outcome? = none)
    (h : scope.failure? s.moment = some own) :
    r.receive scope s = (.answered (.error own), r.fail own, s) := by
  cases hstate : r.state with
  | finished => simp only [outcome?, hstate] at hopen; cases hopen
  | failed st => simp only [outcome?, hstate] at hopen; cases hopen
  | live id =>
      have hrun := Operation.run_guard_of_triggered (nextOperation id) () h
      simp only [receive, hstate, hrun]

/-- A call with many requests fails, whatever the server has answered. -/
theorem ClientStream.closeAndReceive_of_triggered {st : ClientStream}
    (h : st.scope.failure? s.moment = some own) :
    (st.closeAndReceive s).1 = .answered (.error own) := by
  unfold closeAndReceive
  cases st.sender with
  | none =>
      have hrun := Operation.run_guard_of_triggered (joinOperation st.call) .unopened h
      simp only [hrun]
  | some id =>
      have hrun := Operation.run_guard_of_triggered (s := s.close id) (joinOperation st.call)
        .unopened (by rw [s.moment_close, h])
      simp only [hrun]

/-! ## Any instant of a call -/

namespace Conversation

variable {k k' : Conversation} {n : Nat} {handle : Handle} {r : Responses}

/-- A call is refused before it begins: the server sees nothing of it, and no stream is opened. -/
structure Refuses (k : Conversation) (a : ClientAction) (own : Status) : Prop where
  answer : (k.perform a).1 = .failed own
  seen : (k.perform a).2.session.seen = k.session.seen
  slots : (k.perform a).2.session.slots = k.session.slots
  streams : (k.perform a).2.streams = k.streams

theorem refuses_of_triggered (service : ServiceName) {invocation : Invocation}
    {choices : CallChoices} {o : CallOptions} {s : Session}
    (hoptions : k.options choices = (.ok o, s)) (hshape : invocation.shape ≠ .clientStreaming)
    (h : o.scope.failure? k.session.moment = some own) :
    k.Refuses (.call service invocation choices) own := by
  have hsession : s = (k.session.newScope none).2 := (congrArg Prod.snd hoptions).symm
  have hown : o.scope.failure? s.moment = some own := by rw [hsession]; exact h
  have hperform : ∃ s', k.perform (.call service invocation choices) =
        (.failed own, { k with session := s' }) ∧
      s'.seen = k.session.seen ∧ s'.slots = k.session.slots := by
    change ∃ s', k.call service invocation choices = _ ∧ _
    simp only [call, hoptions]
    cases hkind : invocation.shape with
    | clientStreaming => exact absurd hkind hshape
    | unary =>
        simp only [k.client.unary_of_triggered service invocation hown]
        refine ⟨_, rfl, ?_⟩
        rw [hsession]
        split <;> exact ⟨rfl, rfl⟩
    | serverStreaming =>
        simp only [Client.serverStreaming, k.client.openCall_of_triggered service invocation hown]
        refine ⟨_, rfl, ?_⟩
        rw [hsession]
        exact ⟨rfl, rfl⟩
    | bidiStreaming =>
        simp only [Client.bidiStreaming, k.client.openCall_of_triggered .test invocation hown]
        refine ⟨_, rfl, ?_⟩
        rw [hsession]
        exact ⟨rfl, rfl⟩
  obtain ⟨s', hperform, hseen, hslots⟩ := hperform
  constructor <;> rw [hperform]
  · exact hseen
  · exact hslots

/-- The next receive gives a failure, one message at a time or all at once. -/
structure Fails (k : Conversation) (n : Nat) (own : Status) : Prop where
  receive : (k.perform (.receive n)).1 = .received (.error own)
  receiveAll : (k.perform (.receiveAll n)).1 = .receivedAll [.error own]

theorem fails_of_receive (h : k.receive n = (some (.error own), k')) : k.Fails n own := by
  constructor
  · rw [perform_receive_iff.mpr h]
  · simp only [perform, receiveAll_of_end _ h (by rintro _ ⟨⟩)]

theorem fails_of_outcome (hstream : k.stream? n = some handle)
    (hresponses : handle.responses? = some (r, scope)) (houtcome : r.outcome? = some (.error own)) :
    k.Fails n own := by
  have hreceive := receive_eq hstream hresponses
  rw [Responses.receive_of_outcome houtcome] at hreceive
  exact fails_of_receive hreceive

theorem fails_of_triggered (hstream : k.stream? n = some handle)
    (hresponses : handle.responses? = some (r, scope)) (hopen : r.outcome? = none)
    (h : scope.failure? k.session.moment = some own) : k.Fails n own := by
  have hreceive := receive_eq hstream hresponses
  rw [Responses.receive_of_triggered hopen h] at hreceive
  exact fails_of_receive hreceive

/-- What a request comes to in a triggered scope: it is not sent. -/
structure SendRefused (k : Conversation) (n : Nat) (q : Request) : Prop where
  answer : (k.perform (.send n q)).1 = .sendError .endOfStream
  unsent : k.session.Unsent (k.perform (.send n q)).2.session

/-- What a client finds of a stream of responses after a history from its opening on, if its scope
has been triggered by then. -/
structure StreamStopped (k : Conversation) (n : Nat) (before : List ClientAction) (own : Status) :
    Prop where
  /-- A receive fails, even if responses wait. -/
  receive : (∀ outcome, IsEnd outcome → ¬k.HearsIn n outcome before) →
    (∀ st, ¬k.OverruledIn n st before) → (k.performed before).Fails n own
  /-- The failure that a request met before counts more than the present one. -/
  overruled : (∀ outcome, IsEnd outcome → ¬k.HearsIn n outcome before) →
    ∀ st, k.OverruledIn n st before → (k.performed before).Fails n st
  /-- A request on an open sending side is not sent, and every later receive fails. -/
  send : ∀ q handle id, (k.performed before).stream? n = some handle → handle.Sends id →
    (k.performed before).SendRefused n q ∧ ∀ later, .drop n ∉ later →
      (((k.performed before).perform (.send n q)).2.performed later).Fails n own

/-- What a client finds of a stream of requests in a triggered scope. -/
structure RequestsStopped (k : Conversation) (n : Nat) (own : Status) : Prop where
  send : ∀ q handle id, k.stream? n = some handle → handle.Sends id → k.SendRefused n q
  closeAndReceive : (k.perform (.closeAndReceive n)).1 = .failed own

/-- A request on a stream in both directions, in a scope that has been triggered. -/
theorem send_of_triggered {st : BidiStream} {id : CallId} (q : Request)
    (hstream : k.stream? n = some (.bidi st)) (hsender : st.sender = some id)
    (h : st.scope.failure? k.session.moment = some own) :
    k.SendRefused n q ∧ ∀ later, .drop n ∉ later →
      ((k.perform (.send n q)).2.performed later).Fails n own := by
  have hperform : k.perform (.send n q) = (.sendError .endOfStream,
      k.setStream n (.bidi { st with sender := none, responses := st.responses.fail own })
        (st.responses.drop k.session)) := by
    simp only [perform, send, hstream, BidiStream.send_of_triggered hsender h]
    rfl
  constructor
  · constructor <;> rw [hperform]
    exact st.responses.unsent_drop k.session
  · intro later hlife
    rw [hperform]
    have hafter := stream?_setStream hstream
      (.bidi { st with sender := none, responses := st.responses.fail own })
      (st.responses.drop k.session)
    obtain ⟨r', ⟨handle', hstream', hresponses', -⟩, -, -, hsame, -⟩ :=
      performed_outcome hafter rfl hlife (by rintro ⟨⟩)
    have hnever := not_overruledIn_of_closed hafter rfl (by rintro _ ⟨⟩) hlife
    exact fails_of_outcome hstream' hresponses' (hsame hnever)

theorem streamStopped {before : List ClientAction} (hstream : k.stream? n = some handle)
    (hresponses : handle.responses? = some (r, scope)) (hopen : r.outcome? = none)
    (hlife : .drop n ∉ before)
    (h : scope.failure? (k.performed before).session.moment = some own) :
    k.StreamStopped n before own := by
  constructor
  · intro hsilent hnever
    obtain ⟨r', ⟨handle', hstream', hresponses', -⟩, -, -, hsame, -⟩ :=
      performed_outcome hstream hresponses hlife fun _ => hsilent
    exact fails_of_triggered hstream' hresponses' ((hsame hnever).trans hopen) h
  · intro hsilent st hst
    obtain ⟨r', ⟨handle', hstream', hresponses', -⟩, -, -, -, hoverruled⟩ :=
      performed_outcome hstream hresponses hlife fun _ => hsilent
    exact fails_of_outcome hstream' hresponses' (hoverruled st hst)
  · intro q found id hfound hsends
    obtain ⟨r', ⟨handle', hstream', hresponses', -⟩, -⟩ :=
      performed_metadata hstream hresponses hlife
    rw [hfound] at hstream'
    cases hstream'
    cases found with
    | server | gone => cases hsends
    | client => cases hresponses'
    | bidi st =>
        cases hresponses'
        exact send_of_triggered q hfound hsends h

theorem requestsStopped {st : ClientStream} (hstream : k.stream? n = some (.client st))
    (h : st.scope.failure? k.session.moment = some own) : k.RequestsStopped n own := by
  constructor
  · intro q found id hfound hsends
    rw [hstream] at hfound
    cases hfound
    have hperform := perform_send_client hstream q
    rw [ClientStream.send_of_triggered hsends h] at hperform
    constructor <;> rw [hperform]
    · rfl
    · exact k.session.unsent_abandon st.call
  · have hclose := ClientStream.closeAndReceive_of_triggered h
    rcases hresult : st.closeAndReceive k.session with ⟨answer, s'⟩
    rw [hresult] at hclose
    subst hclose
    simp only [perform, hstream, hresult]

/-- What a client finds of a call in a given scope as soon as the scope has been triggered. -/
structure ScopeSeen (k : Conversation) (service : ServiceName) (invocation : Invocation)
    (choices : CallChoices) (scope : Scope) : Prop where
  /-- A call is not opened, and no request reaches the server. -/
  opening : invocation.shape ≠ .clientStreaming → scope.Triggered k.session.moment →
    k.Refuses (.call service invocation choices) (scope.verdict k.session.moment)
  responses : ∀ n k' before, k.perform (.call service invocation choices) = (.stream n, k') →
    invocation.shape ≠ .clientStreaming → .drop n ∉ before →
      scope.Triggered (k'.performed before).session.moment →
        k'.StreamStopped n before (scope.verdict (k'.performed before).session.moment)
  requests : ∀ n k' before, k.perform (.call service invocation choices) = (.stream n, k') →
    invocation.shape = .clientStreaming → .drop n ∉ before → .closeAndReceive n ∉ before →
      scope.Triggered (k'.performed before).session.moment →
        (k'.performed before).RequestsStopped n
          (scope.verdict (k'.performed before).session.moment)

/-- **A triggered scope is seen by the next operation of its call**, whatever the server does, with
the code of the signal if it has been given and else with that of the deadline. -/
theorem triggered_scope_is_seen (service : ServiceName) (invocation : Invocation)
    {choices : CallChoices} {o : CallOptions} {s : Session}
    (hoptions : k.options choices = (.ok o, s)) :
    k.ScopeSeen service invocation choices o.scope := by
  constructor
  · intro hshape h
    exact refuses_of_triggered service hoptions hshape (Scope.failure?_of_triggered h)
  · intro n k' before hopened hshape hlife h
    obtain ⟨o', s', handle, r, hoptions', hstream, hresponses, hopen, -⟩ :=
      opened_stream hopened hshape
    cases hoptions.symm.trans hoptions'
    exact streamStopped hstream hresponses hopen hlife (Scope.failure?_of_triggered h)
  · intro n k' before hopened hshape hdrop hclose h
    obtain ⟨o', s', hoptions', hstream, -⟩ := opened_client hopened hshape
    cases hoptions.symm.trans hoptions'
    obtain ⟨st, hstream', -, hscope⟩ := performed_client hstream hdrop hclose
    have hown := Scope.failure?_of_triggered h
    rw [show o.scope = st.scope from hscope.symm] at hown ⊢
    exact requestsStopped hstream' hown

open OutcomeSample in
/-- A stream whose scope is cancelled while it is asked for something. -/
theorem sampleScope_seen :
    ∃ o s, beginning.options { scope := some 0 } = (.ok o, s) ∧
      ((asked.performed [.cancel 0]).perform (.send 0 (.output {}))).2.Fails 0
        Scope.cancelledStatus := by
  have hoptions : ∃ o s, beginning.options { scope := some 0 } = (.ok o, s) ∧
      o.scope = ⟨none, 0⟩ := ⟨_, _, rfl, rfl⟩
  obtain ⟨o, s, hoptions, hscope⟩ := hoptions
  have hseen := triggered_scope_is_seen .test .fullDuplexCall hoptions
  rw [hscope] at hseen
  have hlife : ClientAction.drop 0 ∉ [.send 0 (.output { responseStatus := some ⟨5, "gone"⟩ }),
      .cancel 0] := by
    simp
  have hstopped := hseen.responses 0 (beginning.perform opening).2 _ rfl (by decide) hlife
    (Or.inl rfl)
  obtain ⟨-, hlater⟩ := hstopped.send (.output {}) _ 0 rfl rfl
  exact ⟨o, s, hoptions, hlater [] List.not_mem_nil⟩

end Conversation

end RpcConformance
