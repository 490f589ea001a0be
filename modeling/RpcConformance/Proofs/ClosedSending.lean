import RpcConformance.Proofs.StreamOutcome

/-!
# When sending finds its side closed

The sending side of a stream closes in two ways.  The caller closes it, where the stream has
responses of its own to wait for; or a request is sent in a scope that has been triggered, which
gives the stream up.  Nothing opens it again, and nothing else closes it.  So the requests that
find it closed are those behind one of the two, and a caller who has closed nothing is told that
the side was already closed: not for the first request after the scope was triggered, but for
every further one.

## Main results

* `Conversation.perform_sending` — what any action makes of a sending side.
* `Conversation.sends_closed_iff` — which requests find the sending side closed.
-/

namespace RpcConformance

/-- A stream of a given shape whose requests go to a given call, or nowhere any more, in a given
scope. -/
inductive Handle.Sending (sender : Option CallId) (scope : Scope) : Shape → Handle → Prop
  | bidi {st : BidiStream} (hsender : st.sender = sender) (hscope : st.scope = scope) :
      Sending sender scope .bidiStreaming (.bidi st)
  | client {st : ClientStream} (hsender : st.sender = sender) (hscope : st.scope = scope) :
      Sending sender scope .clientStreaming (.client st)

namespace Conversation

variable {k k' : Conversation} {n : Nat} {handle : Handle} {a : ClientAction}
variable {shape : Shape} {sender : Option CallId} {scope : Scope} {s : Session}

/-- The requests of a stream go to a given call, or nowhere any more. -/
def SendsTo (k : Conversation) (n : Nat) (shape : Shape) (scope : Scope)
    (sender : Option CallId) : Prop :=
  ∃ handle, k.stream? n = some handle ∧ handle.Sending sender scope shape

theorem sendsTo_setStream {before : Handle} (hstream : k.stream? n = some before)
    (h : handle.Sending sender scope shape) :
    (k.setStream n handle s).SendsTo n shape scope sender :=
  ⟨handle, stream?_setStream hstream handle s, h⟩

/-- The actions that use a stream up: it is dropped, or its single response is asked for. -/
def Spends (n : Nat) (shape : Shape) (a : ClientAction) : Prop :=
  a = .drop n ∨ shape = .clientStreaming ∧ a = .closeAndReceive n

/-- The actions that close the sending side of a stream. -/
inductive Closing (k : Conversation) (n : Nat) (shape : Shape) (scope : Scope) :
    ClientAction → Prop
  | caller (h : shape = .bidiStreaming) : Closing k n shape scope (.closeSend n)
  /-- A request is sent in a scope that has been triggered. -/
  | late (q : Request) (h : scope.failure? k.session.moment ≠ none) :
      Closing k n shape scope (.send n q)

/-! ## Requests -/

/-- A request that meets a closed side is told so. -/
theorem send_of_closed (h : k.SendsTo n shape scope none) (q : Request) :
    (k.perform (.send n q)).1 = .sendError .closed ∧
      (k.perform (.send n q)).2.SendsTo n shape scope none := by
  obtain ⟨handle, hstream, hsending⟩ := h
  cases hsending with
  | bidi hsender hscope =>
      simp only [perform, send, hstream, BidiStream.send_of_closed hsender]
      exact ⟨rfl, sendsTo_setStream hstream (.bidi hsender hscope)⟩
  | client hsender hscope =>
      simp only [perform, send, hstream, ClientStream.send_of_closed hsender]
      exact ⟨rfl, sendsTo_setStream hstream (.client hsender hscope)⟩

/-- A request on an open side in a scope that has been triggered closes the side, but it is told
that the stream has ended. -/
theorem send_of_late {id : CallId} {own : Status} (h : k.SendsTo n shape scope (some id))
    (hown : scope.failure? k.session.moment = some own) (q : Request) :
    (k.perform (.send n q)).1 = .sendError .endOfStream ∧
      (k.perform (.send n q)).2.SendsTo n shape scope none := by
  obtain ⟨handle, hstream, hsending⟩ := h
  cases hsending with
  | bidi hsender hscope =>
      subst hscope
      simp only [perform, send, hstream, BidiStream.send_of_triggered hsender hown]
      exact ⟨rfl, sendsTo_setStream hstream (.bidi rfl rfl)⟩
  | client hsender hscope =>
      subst hscope
      simp only [perform, send, hstream, ClientStream.send_of_triggered hsender hown]
      exact ⟨rfl, sendsTo_setStream hstream (.client rfl rfl)⟩

/-- Any other request is sent, or told that the stream has ended, and the side stays open. -/
theorem send_in_time {id : CallId} (h : k.SendsTo n shape scope (some id))
    (hscope : scope.failure? k.session.moment = none) (q : Request) :
    (∃ taken, (k.perform (.send n q)).1 = sendAnswer (.answered (sendResult taken))) ∧
      (k.perform (.send n q)).2.SendsTo n shape scope (some id) := by
  obtain ⟨handle, hstream, hsending⟩ := h
  cases hsending with
  | bidi hsender hsame =>
      subst hsame
      obtain ⟨taken, s', hsend, -⟩ := BidiStream.send_of_untriggered hsender hscope q
      simp only [perform, send, hstream, hsend]
      exact ⟨⟨taken, rfl⟩, sendsTo_setStream hstream (.bidi hsender rfl)⟩
  | client hsender hsame =>
      subst hsame
      obtain ⟨taken, s', hsend, -⟩ := ClientStream.send_of_untriggered hsender hscope q
      simp only [perform, send, hstream, hsend]
      exact ⟨⟨taken, rfl⟩, sendsTo_setStream hstream (.client hsender rfl)⟩

/-! ## Other actions -/

theorem receive_sendsTo (h : k.SendsTo n shape scope sender) :
    (k.receive n).2.SendsTo n shape scope sender := by
  obtain ⟨handle, hstream, hsending⟩ := h
  cases hsending with
  | bidi hsender hscope =>
      rw [receive_eq hstream rfl]
      exact sendsTo_setStream hstream (.bidi hsender hscope)
  | client hsender hscope =>
      have hdeaf : k.receive n = (none, k) := by simp only [receive, hstream]
      rw [hdeaf]
      exact ⟨_, hstream, .client hsender hscope⟩

theorem receiveAll_sendsTo (fuel : Nat) (h : k.SendsTo n shape scope sender) :
    (receiveAll fuel n k).2.SendsTo n shape scope sender := by
  induction fuel generalizing k with
  | zero => exact h
  | succ fuel ih =>
      have hfirst := receive_sendsTo h
      unfold receiveAll
      split <;> rename_i hreceive <;> rw [hreceive] at hfirst
      · exact hfirst
      · exact ih hfirst
      · exact hfirst

/-- The caller can close a side only where there are responses to wait for. -/
theorem closeSend_sendsTo (h : k.SendsTo n shape scope sender) :
    (shape = .bidiStreaming → (k.perform (.closeSend n)).2.SendsTo n shape scope none) ∧
      (shape ≠ .bidiStreaming → (k.perform (.closeSend n)).2.SendsTo n shape scope sender) := by
  obtain ⟨handle, hstream, hsending⟩ := h
  cases hsending with
  | @bidi st hsender hscope =>
      refine ⟨fun _ => ?_, fun hshape => absurd rfl hshape⟩
      simp only [perform, hstream]
      have hkept : (st.closeSend k.session).1.scope = scope :=
        (st.responses_closeSend k.session).2.trans hscope
      exact sendsTo_setStream hstream (.bidi (st.sender_closeSend k.session) hkept)
  | client hsender hscope =>
      refine ⟨fun hshape => (by cases hshape), fun _ => ?_⟩
      simp only [perform, hstream]
      exact ⟨_, hstream, .client hsender hscope⟩

theorem Closing.on_stream (h : k.Closing n shape scope a) : a.stream? = some n := by
  cases h <;> rfl

/-- **What any action makes of a sending side**, as long as the stream is not used up: a closing
action closes it, and any other leaves it as it is. -/
theorem perform_sending (h : k.SendsTo n shape scope sender) (ha : ¬Spends n shape a) :
    (k.Closing n shape scope a → (k.perform a).2.SendsTo n shape scope none) ∧
      (¬k.Closing n shape scope a → (k.perform a).2.SendsTo n shape scope sender) := by
  obtain ⟨handle, hstream, hsending⟩ := id h
  by_cases hon : a.stream? = some n
  case neg =>
    refine ⟨fun hclosing => absurd hclosing.on_stream hon, fun _ => ?_⟩
    exact ⟨handle, perform_keeps hon hstream, hsending⟩
  cases a with
  | scope | cancel | sleep | reconnect | call => cases hon
  | drop m => cases hon; exact absurd (Or.inl rfl) ha
  | send m q =>
      cases hon
      cases sender with
      | none =>
          have hclosed := (send_of_closed h q).2
          exact ⟨fun _ => hclosed, fun _ => hclosed⟩
      | some id =>
          cases hscope : scope.failure? k.session.moment with
          | none =>
              refine ⟨fun hclosing => ?_, fun _ => (send_in_time h hscope q).2⟩
              cases hclosing with
              | late _ hlate => exact absurd hscope hlate
          | some own =>
              have hlate : scope.failure? k.session.moment ≠ none := by
                rw [hscope]
                exact Option.some_ne_none own
              exact ⟨fun _ => (send_of_late h hscope q).2, fun hnot => absurd (.late q hlate) hnot⟩
  | closeSend m =>
      cases hon
      obtain ⟨hcaller, hother⟩ := closeSend_sendsTo h
      constructor
      · rintro ⟨hshape⟩
        exact hcaller hshape
      · exact fun hnot => hother fun hshape => hnot (.caller hshape)
  | closeAndReceive m =>
      cases hon
      refine ⟨fun hclosing => (by cases hclosing), fun _ => ?_⟩
      cases hsending with
      | bidi hsender hscope =>
          simp only [perform, hstream]
          exact h
      | client => exact absurd (Or.inr ⟨rfl, rfl⟩) ha
  | receive m =>
      cases hon
      refine ⟨fun hclosing => (by cases hclosing), fun _ => ?_⟩
      have hreceive := receive_sendsTo h
      simp only [perform]
      split <;> rename_i heq <;> rw [heq] at hreceive <;> exact hreceive
  | receiveAll m =>
      cases hon
      exact ⟨fun hclosing => (by cases hclosing),
        fun _ => receiveAll_sendsTo (k.session.messageBound + 1) h⟩
  | metadata m =>
      cases hon
      refine ⟨fun hclosing => (by cases hclosing), fun _ => ?_⟩
      cases hsending <;> simp only [perform, hstream] <;> exact h

/-! ## Histories -/

/-- The sending side of a stream is closed in one of the actions of its client. -/
def ClosedIn (k : Conversation) (n : Nat) (shape : Shape) (scope : Scope)
    (actions : List ClientAction) : Prop :=
  ∃ before a after, actions = before ++ a :: after ∧ (k.performed before).Closing n shape scope a

theorem closedIn_cons_iff {rest : List ClientAction} :
    k.ClosedIn n shape scope (a :: rest) ↔
      k.Closing n shape scope a ∨ (k.perform a).2.ClosedIn n shape scope rest := by
  constructor
  · rintro ⟨before, b, after, hactions, hclosing⟩
    cases before with
    | nil => cases hactions; exact Or.inl hclosing
    | cons first before => cases hactions; exact Or.inr ⟨before, b, after, rfl, hclosing⟩
  · rintro (hclosing | ⟨before, b, after, rfl, hclosing⟩)
    · exact ⟨[], a, rest, rfl, hclosing⟩
    · exact ⟨a :: before, b, after, rfl, hclosing⟩

/-- **What a history makes of a sending side.**  Once closed it stays closed, and it stays as it is
until it is closed. -/
theorem performed_sending {actions : List ClientAction} (h : k.SendsTo n shape scope sender)
    (hlife : ∀ a ∈ actions, ¬Spends n shape a) :
    (k.ClosedIn n shape scope actions → (k.performed actions).SendsTo n shape scope none) ∧
      (¬k.ClosedIn n shape scope actions → (k.performed actions).SendsTo n shape scope sender) := by
  induction actions generalizing k sender with
  | nil =>
      refine ⟨?_, fun _ => h⟩
      rintro ⟨before, a, after, hnil, -⟩
      cases before <;> cases hnil
  | cons a rest ih =>
      obtain ⟨hclosing, hother⟩ := perform_sending h (hlife a List.mem_cons_self)
      have hrest : ∀ b ∈ rest, ¬Spends n shape b := fun b hb => hlife b (List.mem_cons_of_mem a hb)
      rw [closedIn_cons_iff]
      by_cases ha : k.Closing n shape scope a
      · have hclosed := ih (hclosing ha) hrest
        refine ⟨fun _ => ?_, fun hnot => absurd (Or.inl ha) hnot⟩
        by_cases hagain : (k.perform a).2.ClosedIn n shape scope rest
        · exact hclosed.1 hagain
        · exact hclosed.2 hagain
      · have hkept := ih (hother ha) hrest
        exact ⟨fun hin => hkept.1 (hin.resolve_left ha), fun hnot => hkept.2 (hnot ∘ Or.inr)⟩

/-! ## From the opening on -/

/-- A stream that has been opened with a sending side has it open, in the scope of its options. -/
theorem opened_sendsTo {service : ServiceName} {invocation : Invocation} {choices : CallChoices}
    (h : k.perform (.call service invocation choices) = (.stream n, k'))
    (hshape : invocation.shape = .bidiStreaming ∨ invocation.shape = .clientStreaming) :
    ∃ o s id, k.options choices = (.ok o, s) ∧
      k'.SendsTo n invocation.shape o.scope (some id) := by
  rcases hshape with hbidi | hclient
  · change k.call service invocation choices = (.stream n, k') at h
    unfold call at h
    split at h
    · cases h
    · rename_i o s hoptions
      simp only [hbidi, Client.bidiStreaming] at h
      rcases hopen : k.client.openCall .test invocation o s with
        ⟨(st | ⟨id, r⟩) | _, s'⟩ <;> rw [hopen] at h
      · cases h
      · cases h
        rw [hbidi]
        exact ⟨o, s, id, hoptions, _, List.getElem?_concat_length, .bidi rfl rfl⟩
      · cases h
  · obtain ⟨o, s, hoptions, hstream, -⟩ := opened_client h hclient
    rw [hclient]
    exact ⟨o, s, _, hoptions, _, hstream, .client rfl rfl⟩

/-- A request has been sent on a stream in a scope that had been triggered by then. -/
def SentLate (k : Conversation) (n : Nat) (scope : Scope) (actions : List ClientAction) : Prop :=
  ∃ before q after, actions = before ++ .send n q :: after ∧
    scope.failure? (k.performed before).session.moment ≠ none

theorem closedIn_iff {actions : List ClientAction} :
    k.ClosedIn n shape scope actions ↔
      shape = .bidiStreaming ∧ .closeSend n ∈ actions ∨ k.SentLate n scope actions := by
  constructor
  · rintro ⟨before, a, after, rfl, hclosing⟩
    cases hclosing with
    | caller hshape => exact Or.inl ⟨hshape, List.mem_append_right _ List.mem_cons_self⟩
    | late q hlate => exact Or.inr ⟨before, q, after, rfl, hlate⟩
  · rintro (⟨hshape, hmem⟩ | ⟨before, q, after, rfl, hlate⟩)
    · obtain ⟨before, after, rfl⟩ := List.append_of_mem hmem
      exact ⟨before, _, after, rfl, .caller hshape⟩
    · exact ⟨before, _, after, rfl, .late q hlate⟩

/-- **Which requests find the sending side closed**: those behind the caller's closing it, and
those behind another request that was sent when the scope had been triggered.  Every other request
is sent, or told that the stream has ended. -/
theorem sends_closed_iff {service : ServiceName} {invocation : Invocation} {choices : CallChoices}
    (hopened : k.perform (.call service invocation choices) = (.stream n, k'))
    (hshape : invocation.shape = .bidiStreaming ∨ invocation.shape = .clientStreaming) :
    ∃ o s, k.options choices = (.ok o, s) ∧
      ∀ before q, (∀ a ∈ before, ¬Spends n invocation.shape a) →
        (((k'.performed before).perform (.send n q)).1 = .sendError .closed ↔
            invocation.shape = .bidiStreaming ∧ .closeSend n ∈ before ∨
              k'.SentLate n o.scope before) ∧
          (((k'.performed before).perform (.send n q)).1 = .sendError .closed ∨
            ((k'.performed before).perform (.send n q)).1 = .sendError .endOfStream ∨
            ((k'.performed before).perform (.send n q)).1 = .sent) := by
  obtain ⟨o, s, id, hoptions, hopen⟩ := opened_sendsTo hopened hshape
  refine ⟨o, s, hoptions, fun before q hlife => ?_⟩
  obtain ⟨hclosed, hnever⟩ := performed_sending hopen hlife
  rw [← closedIn_iff]
  by_cases hin : k'.ClosedIn n invocation.shape o.scope before
  · have hanswer := (send_of_closed (hclosed hin) q).1
    rw [hanswer]
    exact ⟨⟨fun _ => hin, fun _ => rfl⟩, Or.inl rfl⟩
  · have hstill := hnever hin
    have hanswer : ((k'.performed before).perform (.send n q)).1 = .sendError .endOfStream ∨
        ((k'.performed before).perform (.send n q)).1 = .sent := by
      cases hscope : o.scope.failure? (k'.performed before).session.moment with
      | some own => exact Or.inl (send_of_late hstill hscope q).1
      | none =>
          obtain ⟨⟨taken, hsend⟩, -⟩ := send_in_time hstill hscope q
          rw [hsend]
          cases taken with
          | false => exact Or.inl rfl
          | true => exact Or.inr rfl
    refine ⟨⟨fun hsaid => ?_, fun h => absurd h hin⟩, Or.inr hanswer⟩
    rcases hanswer with hended | hsent
    · rw [hended] at hsaid
      cases hsaid
    · rw [hsent] at hsaid
      cases hsaid

namespace ClosedSample

/-- A client with one scope, of a reference server. -/
def beginning : Conversation :=
  (start ⟨{}, true⟩ (.reference ⟨"server", "localhost"⟩)).performed [.scope none]

/-- It opens a stream in its scope. -/
def opening (invocation : Invocation) : ClientAction := .call .test invocation { scope := some 0 }

/-- It has opened the stream. -/
def opened (invocation : Invocation) : Conversation := (beginning.perform (opening invocation)).2

/-- It cancels the scope and sends a request, and closes nothing. -/
def late (q : Request) : List ClientAction := [.cancel 0, .send 0 q]

/-- What it is told about one more request. -/
def error? (invocation : Invocation) (q : Request) : Option SendError :=
  match (((opened invocation).performed (late q)).perform (.send 0 q)).1 with
  | .sendError e => some e
  | _ => none

end ClosedSample

open ClosedSample in
theorem sampleSends_closed_iff :
    (beginning.perform (opening .fullDuplexCall)).1 = .stream 0 ∧
      (∀ a ∈ late (.output {}), ¬Spends 0 .bidiStreaming a) ∧
      ∃ o s, beginning.options { scope := some 0 } = (.ok o, s) ∧
        ((((opened .fullDuplexCall).performed (late (.output {}))).perform
            (.send 0 (.output {}))).1 = .sendError .closed ↔
          Shape.bidiStreaming = .bidiStreaming ∧ .closeSend 0 ∈ late (.output {}) ∨
            (opened .fullDuplexCall).SentLate 0 o.scope (late (.output {}))) := by
  have hopened : beginning.perform (opening .fullDuplexCall) =
      (.stream 0, opened .fullDuplexCall) := rfl
  have hlife : ∀ a ∈ late (.output {}), ¬Spends 0 .bidiStreaming a := by
    simp [late, Spends]
  obtain ⟨o, s, hoptions, hsends⟩ := sends_closed_iff hopened (Or.inl rfl)
  exact ⟨rfl, hlife, o, s, hoptions, (hsends _ _ hlife).1⟩

open ClosedSample in
/-- Nobody has closed anything, but streams of both kinds say that their side was closed. -/
theorem sampleSend_closed_by_nobody :
    (∀ q, .closeSend 0 ∉ late q) ∧ error? .fullDuplexCall (.output {}) = some .closed ∧
      error? .streamingInputCall (.input {}) = some .closed := by
  refine ⟨fun q => by simp [late], ?_, ?_⟩
  · decide +kernel
  · decide +kernel

end Conversation

end RpcConformance
