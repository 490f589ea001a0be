import RpcConformance.Proofs.RequestTimeout
import RpcConformance.Proofs.SessionFrame

/-!
# What a client's history does to a call

Every function of a client is made of operations and of steps that touch one call.  A stream
reads and feeds its own call and no other, and a new call has a number that no call had before.
So what is kept by the functions of one stream and by a session that evolves without it is kept
by every history of its client, and an action that does not concern a stream leaves the stream
and its call alone.

## Main results

* `Conversation.effects_perform` — everything that an action does to its conversation.
* `Conversation.Effect.kept_or_replaced` — what that is for one stream.
* `Conversation.HasAt.performed` — a history keeps what a stream keeps.
* `Conversation.orderly_performed` — no two streams ever have to do with the same call.
* `Conversation.perform_spares` — what an action does that does not concern a stream.
-/

namespace RpcConformance

variable {own feeds : CallId → Prop}

/-! ## Streams -/

namespace Responses

theorem steps_drop (r : Responses) (s : Session) (hown : ∀ id, r.state = .live id → own id) :
    s.Steps own feeds (r.drop s) := by
  unfold drop
  split
  · rename_i id hstate
    exact s.steps_abandon (hown id hstate)
  · exact .refl

theorem moment_drop (r : Responses) (s : Session) : (r.drop s).moment = s.moment := by
  unfold drop
  split <;> rfl

theorem steps_receive (r : Responses) (scope : Scope) {s : Session} (hnew : s.OwnsNew own)
    (hown : ∀ id, r.state = .live id → own id) :
    s.Steps own feeds (r.receive scope s).2.2 := by
  unfold receive
  split
  · exact .refl
  · exact .refl
  · rename_i id hstate
    have hrun : s.Steps own feeds (s.run (scope.guard (nextOperation id)) (.fresh ())).2 :=
      ((nextOperation_tame (hown id hstate)).guard scope).run (.fresh ()) trivial hnew
    split <;> rename_i heq <;> rw [heq] at hrun
    · exact hrun
    · exact hrun
    · exact hrun
    · split <;> exact hrun

/-- What is received of a stream concerns its own call, as long as that lasts. -/
theorem live_of_receive (r : Responses) (scope : Scope) (s : Session) {id : CallId}
    (h : (r.receive scope s).2.1.state = .live id) : r.state = .live id := by
  unfold receive at h
  split at h
  · exact h
  · exact h
  · rename_i id' hstate
    rw [hstate]
    split at h
    · rw [← hstate]
      exact h
    · rw [← hstate]
      exact h
    · cases h
    · split at h <;> cases h

end Responses

namespace BidiStream

theorem steps_send (st : BidiStream) (r : Request) {s : Session} (hnew : s.OwnsNew own)
    (hown : ∀ id, st.responses.state = .live id → own id)
    (hfeeds : ∀ id, st.sender = some id → feeds id) :
    s.Steps own feeds (st.send r s).2.2 := by
  unfold send
  split
  · exact .refl
  · rename_i id hsender
    have hrun : s.Steps own feeds (s.run (st.scope.guard (sendOperation id r)) (.fresh ())).2 :=
      ((sendOperation_tame (hfeeds id hsender) r).guard st.scope).run (.fresh ()) trivial hnew
    split <;> rename_i heq <;> rw [heq] at hrun
    · exact hrun
    · exact hrun
    · exact hrun
    · exact hrun.trans (st.responses.steps_drop _ hown)

theorem steps_closeSend (st : BidiStream) (s : Session)
    (hfeeds : ∀ id, st.sender = some id → feeds id) :
    s.Steps own feeds (st.closeSend s).2 := by
  unfold closeSend
  split
  · exact .refl
  · rename_i id hsender
    exact s.steps_close (hfeeds id hsender)

theorem sender_send (st : BidiStream) (r : Request) (s : Session) {id : CallId}
    (h : (st.send r s).2.1.sender = some id) : st.sender = some id := by
  unfold send at h
  split at h
  · exact h
  · split at h
    · exact h
    · exact h
    · exact h
    · cases h

theorem sender_closeSend (st : BidiStream) (s : Session) : (st.closeSend s).1.sender = none := by
  unfold closeSend
  cases hsender : st.sender with
  | none => exact hsender
  | some id => rfl

theorem live_of_send (st : BidiStream) (r : Request) (s : Session) {id : CallId}
    (h : (st.send r s).2.1.responses.state = .live id) : st.responses.state = .live id := by
  unfold send at h
  split at h
  · exact h
  · split at h
    · exact h
    · exact h
    · exact h
    · cases h

theorem responses_closeSend (st : BidiStream) (s : Session) :
    (st.closeSend s).1.responses = st.responses ∧ (st.closeSend s).1.scope = st.scope := by
  unfold closeSend
  cases st.sender <;> exact ⟨rfl, rfl⟩

theorem live_of_closeSend (st : BidiStream) (s : Session) {id : CallId}
    (h : (st.closeSend s).1.responses.state = .live id) : st.responses.state = .live id := by
  rw [← (st.responses_closeSend s).1]
  exact h

end BidiStream

namespace ClientStream

theorem call_send (st : ClientStream) (r : Request) (s : Session) :
    (st.send r s).2.1.call = st.call := by
  unfold send
  split
  · rfl
  · split <;> rfl

theorem sender_send (st : ClientStream) (r : Request) (s : Session) {id : CallId}
    (h : (st.send r s).2.1.sender = some id) : st.sender = some id := by
  unfold send at h
  split at h
  · exact h
  · split at h
    · exact h
    · exact h
    · exact h
    · cases h

theorem steps_send (st : ClientStream) (r : Request) {s : Session} (hnew : s.OwnsNew own)
    (hown : own st.call) (hfeeds : ∀ id, st.sender = some id → feeds id) :
    s.Steps own feeds (st.send r s).2.2 := by
  unfold send
  split
  · exact .refl
  · rename_i id hsender
    have hrun : s.Steps own feeds (s.run (st.scope.guard (sendOperation id r)) (.fresh ())).2 :=
      ((sendOperation_tame (hfeeds id hsender) r).guard st.scope).run (.fresh ()) trivial hnew
    split <;> rename_i heq <;> rw [heq] at hrun
    · exact hrun
    · exact hrun
    · exact hrun
    · exact hrun.trans (Session.steps_abandon _ hown)

theorem steps_closeAndReceive (st : ClientStream) {s : Session} (hnew : s.OwnsNew own)
    (hown : own st.call) (hfeeds : ∀ id, st.sender = some id → feeds id) :
    s.Steps own feeds (st.closeAndReceive s).2 := by
  have hjoin : ∀ s' : Session, s'.OwnsNew own → s'.Steps own feeds
      ((s'.run (st.scope.guard (joinOperation st.call)) (.fresh .unopened)).2.abandon st.call) :=
    fun s' hnew' =>
      (((joinOperation_tame hown).guard st.scope).run (.fresh .unopened) trivial hnew').trans
        (Session.steps_abandon _ hown)
  unfold closeAndReceive
  cases hsender : st.sender with
  | none => exact hjoin s hnew
  | some id =>
      have hclose : s.Steps own feeds (s.close id) := s.steps_close (hfeeds id hsender)
      exact hclose.trans (hjoin _ (hnew.steps hclose))

end ClientStream

/-! ## Calls -/

namespace Client

theorem failing_tame {α : Type} :
    (failing : Operation Session Unit (Except Status α)).Tame own feeds fun _ => True :=
  fun _ _ _ _ => ⟨.refl, fun _ _ => trivial⟩

variable (c : Client) (service : ServiceName) (invocation : Invocation) (o : CallOptions)
  {s : Session}

theorem steps_unary (hnew : s.OwnsNew own) :
    s.Steps own feeds (c.unary service invocation o s).2 := by
  rw [unary_eq]
  split
  · have hrun : s.Steps own feeds (s.run (o.scope.guard unaryOperation)
        (.fresh (.unsent (c.spec service invocation o s)))).2 :=
      (unaryOperation_tame.guard o.scope).run _ trivial hnew
    exact (hrun.trans (Session.steps_abandon _ (hnew _ (Nat.le_refl _)))).trans
      (Session.steps_delay _)
  · exact (failing_tame.guard o.scope).run (.fresh ()) trivial hnew

theorem steps_openCall (hnew : s.OwnsNew own) :
    s.Steps own feeds (c.openCall service invocation o s).2 := by
  rw [openCall_eq]
  split
  · have hrun : s.Steps own feeds (s.run (o.scope.guard openOperation)
        (.fresh (.unsent (c.spec service invocation o s)))).2 :=
      (openOperation_tame.guard o.scope).run _ trivial hnew
    dsimp only
    split <;> rename_i heq <;> rw [heq] at hrun
    · exact hrun
    · exact hrun.trans (Session.steps_abandon _ (hnew _ (Nat.le_refl _)))
    · exact hrun
  · exact (failing_tame.guard o.scope).run (.fresh ()) trivial hnew

theorem failing_ne_ok {α : Type} {scope : Scope} {a : α} {s' : Session} :
    s.run (scope.guard failing) (.fresh ()) ≠ (.answered (.ok a), s') := by
  intro hrun
  obtain ⟨beats, hplay⟩ := (scope.guard failing).run_answered none hrun
  obtain ⟨before, rest, g, w₁, _, _, hturn⟩ := Operation.play_ready_iff.mp hplay
  obtain ⟨_, hok⟩ := Scope.guard_turn_ok scope failing hturn
  cases hok

/-- Nothing but the headers has been seen of a stream that has been opened. -/
theorem opened_of_openCall {id : CallId} {r : Responses} {s' : Session}
    (h : c.openCall service invocation o s = (.answered (.ok (id, r)), s')) :
    ∃ headers, r = Responses.opened id headers := by
  rw [openCall_eq] at h
  split at h
  · dsimp only at h
    split at h <;> cases h
    exact ⟨_, rfl⟩
  · exact absurd h failing_ne_ok

/-- A stream that has been opened reads a new call. -/
theorem new_of_openCall {id : CallId} {r : Responses} {s' : Session}
    (h : c.openCall service invocation o s = (.answered (.ok (id, r)), s')) :
    r.state = .live id ∧ s.slots.length ≤ id ∧ id < s'.slots.length := by
  rw [openCall_eq] at h
  split at h
  · dsimp only at h
    split at h
    · cases h
    · cases h
    · rename_i found headers s₁ hrun
      cases h
      obtain ⟨beats, hplay⟩ := (o.scope.guard openOperation).run_answered none hrun
      obtain ⟨before, rest, g, w₁, _, hbefore, hturn⟩ := Operation.play_ready_iff.mp hplay
      have hnew : s.OwnsNew (s.slots.length ≤ ·) := fun _ hid => hid
      have htame : openOperation.Tame (s.slots.length ≤ ·) (fun _ => False)
          (OpenState.Own (s.slots.length ≤ ·)) := openOperation_tame
      have hinv := ((htame.guard o.scope).play
        (.fresh (.unsent (c.spec service invocation o s))) s trivial hnew before).2 g
        (by rw [hbefore])
      obtain ⟨_, hok⟩ := Scope.guard_turn_ok o.scope openOperation hturn
      generalize g.inner = st at hinv hok
      cases st with
      | unsent spec => cases hok
      | sent id' =>
          simp only [openOperation] at hok
          split at hok <;> cases hok
          rename_i htake
          exact ⟨rfl, hinv, Session.lt_length_of_take htake⟩
  · exact absurd h failing_ne_ok

end Client

/-! ## Histories -/

namespace Handle

/-- The calls that a stream reads or can give up. -/
def Calls : Handle → CallId → Prop
  | server st, id => st.responses.state = .live id
  | bidi st, id => st.responses.state = .live id
  | client st, id => st.call = id
  | gone, _ => False

/-- The calls that a stream sends requests to. -/
def Sends : Handle → CallId → Prop
  | bidi st, id => st.sender = some id
  | client st, id => st.sender = some id
  | _, _ => False

/-- The calls that a stream has to do with. -/
def Holds (handle : Handle) (id : CallId) : Prop := handle.Calls id ∨ handle.Sends id

/-- The receiving side of a stream that has one, with its scope. -/
def responses? : Handle → Option (Responses × Scope)
  | server st => some (st.responses, st.scope)
  | bidi st => some (st.responses, st.scope)
  | _ => none

/-- The stream with another receiving side. -/
def withResponses (r : Responses) : Handle → Handle
  | server st => server { st with responses := r }
  | bidi st => bidi { st with responses := r }
  | handle => handle

variable {handle : Handle} {r r' : Responses} {scope : Scope} {id : CallId}

theorem responses?_withResponses (h : handle.responses? = some (r, scope)) (r' : Responses) :
    (handle.withResponses r').responses? = some (r', scope) := by
  cases handle <;> cases h <;> rfl

theorem sends_withResponses (handle : Handle) (r : Responses) :
    (handle.withResponses r).Sends id ↔ handle.Sends id := by
  cases handle <;> exact Iff.rfl

theorem calls_iff_live (h : handle.responses? = some (r, scope)) :
    handle.Calls id ↔ r.state = .live id := by
  cases handle <;> cases h <;> exact Iff.rfl

/-- What the functions of a stream keep, whichever of some requests it sends, and a session does
that evolves without touching a call: a stream that is gone is of no concern. -/
structure Kept (id : CallId) (sent : Request → Prop) (P : Handle → Session → Prop) : Prop where
  evolves : ∀ {handle s s'}, P handle s → s.Evolves (· ≠ id) (· ≠ id) s' → P handle s'
  gone : ∀ s, P .gone s
  receive : ∀ {handle r scope s}, P handle s → handle.responses? = some (r, scope) →
    P (handle.withResponses (r.receive scope s).2.1) (r.receive scope s).2.2
  send : ∀ {st : BidiStream} {s q}, sent q → P (.bidi st) s →
    P (.bidi (st.send q s).2.1) (st.send q s).2.2
  closeSend : ∀ {st : BidiStream} {s}, P (.bidi st) s →
    P (.bidi (st.closeSend s).1) (st.closeSend s).2
  clientSend : ∀ {st : ClientStream} {s q}, sent q → P (.client st) s →
    P (.client (st.send q s).2.1) (st.send q s).2.2

end Handle

/-- The stream that an action concerns. -/
def ClientAction.stream? : ClientAction → Option Nat
  | send n _ => some n
  | closeSend n => some n
  | drop n => some n
  | receive n => some n
  | receiveAll n => some n
  | closeAndReceive n => some n
  | metadata n => some n
  | _ => none

namespace Conversation

variable {c : Conversation} {n : Nat} {handle : Handle} {r : Responses} {scope : Scope}

/-! ### One stream -/

theorem stream?_setStream {before : Handle} (h : c.stream? n = some before) (handle : Handle)
    (s : Session) : (c.setStream n handle s).stream? n = some handle :=
  List.getElem?_set_self (List.getElem?_eq_some_iff.mp h).1

theorem stream?_setStream_of_ne (c : Conversation) {m n : Nat} (h : m ≠ n) (handle : Handle)
    (s : Session) : (c.setStream m handle s).stream? n = c.stream? n :=
  List.getElem?_set_ne h

theorem receive_eq (hstream : c.stream? n = some handle)
    (hresponses : handle.responses? = some (r, scope)) :
    c.receive n = ((r.receive scope c.session).1.toOption,
      c.setStream n (handle.withResponses (r.receive scope c.session).2.1)
        (r.receive scope c.session).2.2) := by
  cases handle <;> cases hresponses <;> simp only [receive, hstream] <;> rfl

theorem metadata_eq (hstream : c.stream? n = some handle)
    (hresponses : handle.responses? = some (r, scope)) :
    c.perform (.metadata n) = (.metadata r.headers r.trailers, c) := by
  cases handle <;> cases hresponses <;> simp only [perform, hstream]

/-- There is no stream of a number, or it is one without responses. -/
def Deaf (c : Conversation) (n : Nat) : Prop :=
  ∀ handle, c.stream? n = some handle → handle.responses? = none

theorem deaf_or_responses (c : Conversation) (n : Nat) :
    c.Deaf n ∨ ∃ handle r scope, c.stream? n = some handle ∧
      handle.responses? = some (r, scope) := by
  cases hstream : c.stream? n with
  | none => exact Or.inl fun handle h => by rw [hstream] at h; cases h
  | some handle =>
      cases hresponses : handle.responses? with
      | none =>
          refine Or.inl fun found h => ?_
          rw [hstream] at h
          cases h
          exact hresponses
      | some found => exact Or.inr ⟨handle, found.1, found.2, rfl, hresponses⟩

theorem receive_of_deaf (h : c.Deaf n) : c.receive n = (none, c) := by
  cases hstream : c.stream? n with
  | none => simp only [receive, hstream]
  | some handle =>
      have hdeaf := h handle hstream
      cases handle <;> cases hdeaf <;> simp only [receive, hstream]

theorem metadata_of_deaf (h : c.Deaf n) : c.perform (.metadata n) = (.noStream, c) := by
  cases hstream : c.stream? n with
  | none => simp only [perform, hstream]
  | some handle =>
      have hdeaf := h handle hstream
      cases handle <;> cases hdeaf <;> simp only [perform, hstream]

/-- The answer to a receiving action is what the stream gives. -/
theorem perform_receive_iff {c' : Conversation} {answer : Except Status (Option Reply)} :
    c.perform (.receive n) = (.received answer, c') ↔ c.receive n = (some answer, c') := by
  rcases hreceive : c.receive n with ⟨_ | found, found'⟩ <;> simp [perform, hreceive]

theorem steps_dropHandle (s : Session) (handle : Handle)
    (hown : ∀ id, handle.Calls id → own id) : s.Steps own feeds (dropHandle s handle) := by
  cases handle with
  | server st => exact st.responses.steps_drop s hown
  | bidi st => exact st.responses.steps_drop s hown
  | client st => exact s.steps_abandon (hown st.call rfl)
  | gone => exact .refl

/-! ### What an action does -/

/-- One thing that an action does to a conversation: the streams stay as they are, one is added
that has to do with a new call only, or the stream of the action is replaced by what its functions
make of it, which send no request but that of the action. -/
inductive Effect (c : Conversation) (a : ClientAction) : Conversation → Prop
  | same {c' : Conversation} (hstreams : c'.streams = c.streams)
      (hs : ∀ own feeds, c.session.OwnsNew own → c.session.Steps own feeds c'.session) :
      Effect c a c'
  | added {handle : Handle} {s : Session}
      (hholds : ∀ id, handle.Holds id → c.session.slots.length ≤ id ∧ id < s.slots.length)
      (hs : ∀ own feeds, c.session.OwnsNew own → c.session.Steps own feeds s) :
      Effect c a (c.addStream handle s).2
  | replaced {m : Nat} {before after : Handle} {s : Session} (hon : a.stream? = some m)
      (hbefore : c.stream? m = some before)
      (hcalls : ∀ id, after.Calls id → before.Calls id)
      (hsends : ∀ id, after.Sends id → before.Sends id)
      (hs : ∀ own feeds, c.session.OwnsNew own → (∀ id, before.Calls id → own id) →
        (∀ id, before.Sends id → feeds id) → c.session.Steps own feeds s)
      (hkept : ∀ id sent P, Handle.Kept id sent P → (∀ q, a = .send m q → sent q) →
        P before c.session → P after s) :
      Effect c a (c.setStream m after s)

/-- What an action has done to a conversation. -/
def Effects (c : Conversation) (a : ClientAction) (c' : Conversation) : Prop :=
  Relation.ReflTransGen (fun k k' => Effect k a k') c c'

variable {a : ClientAction}

theorem effect_refl (c : Conversation) (a : ClientAction) : c.Effect a c :=
  .same rfl fun _ _ _ => .refl

theorem effect_receive (c : Conversation) {m : Nat} (hon : a.stream? = some m) :
    c.Effect a (c.receive m).2 := by
  rcases c.deaf_or_responses m with hdeaf | ⟨handle, r, scope, hstream, hresponses⟩
  · rw [receive_of_deaf hdeaf]
    exact c.effect_refl a
  · rw [receive_eq hstream hresponses]
    refine .replaced hon hstream ?_ ?_ ?_ fun _ _ _ hkept _ h => hkept.receive h hresponses
    · intro id hcalls
      rw [Handle.calls_iff_live (Handle.responses?_withResponses hresponses _)] at hcalls
      exact (Handle.calls_iff_live hresponses).mpr (r.live_of_receive scope c.session hcalls)
    · exact fun id => (handle.sends_withResponses _).mp
    · intro own feeds hnew hown _
      exact r.steps_receive scope hnew fun id hlive =>
        hown id ((Handle.calls_iff_live hresponses).mpr hlive)

theorem effects_receiveAll (fuel : Nat) {m : Nat} (hon : a.stream? = some m)
    (c : Conversation) : c.Effects a (receiveAll fuel m c).2 := by
  induction fuel generalizing c with
  | zero => exact .refl
  | succ fuel ih =>
      have hfirst := c.effect_receive hon
      unfold receiveAll
      split <;> rename_i heq <;> rw [heq] at hfirst
      · exact .single hfirst
      · exact .head hfirst (ih _)
      · exact .single hfirst

theorem effect_send (c : Conversation) (m : Nat) (q : Request) :
    c.Effect (.send m q) (c.send m q).2 := by
  unfold send
  split
  · rename_i st hstream
    exact .replaced rfl hstream (fun _ => st.live_of_send q c.session)
      (fun _ => st.sender_send q c.session) (fun _ _ hnew => st.steps_send q hnew)
      fun _ _ _ hkept hsent => hkept.send (hsent q rfl)
  · rename_i st hstream
    refine .replaced rfl hstream ?_ (fun _ => st.sender_send q c.session)
      (fun _ _ hnew hown => st.steps_send q hnew (hown st.call rfl))
      fun _ _ _ hkept hsent => hkept.clientSend (hsent q rfl)
    intro id hcalls
    rw [← show (st.send q c.session).2.1.call = id from hcalls]
    exact (st.call_send q c.session).symm
  · exact c.effect_refl _

/-- A stream is given up. -/
theorem effect_gone {m : Nat} {before : Handle} {s : Session} (hon : a.stream? = some m)
    (hbefore : c.stream? m = some before)
    (hs : ∀ own feeds, c.session.OwnsNew own → (∀ id, before.Calls id → own id) →
      (∀ id, before.Sends id → feeds id) → c.session.Steps own feeds s) :
    c.Effect a (c.setStream m .gone s) :=
  .replaced hon hbefore (fun _ => False.elim) (fun _ => False.elim) hs fun _ _ _ hkept _ _ =>
    hkept.gone s

/-- A stream is added that has been opened. -/
theorem effect_opened {service : ServiceName} {invocation : Invocation}
    {o : CallOptions} {s s' : Session} {id : CallId} {r : Responses} {handle : Handle}
    (hscope : ∀ own feeds, c.session.Steps own feeds s) (hslots : s.slots = c.session.slots)
    (h : c.client.openCall service invocation o s = (.answered (.ok (id, r)), s'))
    (hholds : r.state = .live id → ∀ id', handle.Holds id' → id' = id) :
    c.Effect a (c.addStream handle s').2 := by
  obtain ⟨hlive, hlower, hupper⟩ := c.client.new_of_openCall service invocation o h
  refine .added ?_ fun own feeds hnew => ?_
  · intro id' hid'
    rw [hholds hlive id' hid', ← hslots]
    exact ⟨hlower, hupper⟩
  · have hopen : s.Steps own feeds (c.client.openCall service invocation o s).2 :=
      c.client.steps_openCall service invocation o (hnew.steps (hscope own feeds))
    rw [h] at hopen
    exact (hscope own feeds).trans hopen

theorem effect_call (c : Conversation) (a : ClientAction) (service : ServiceName)
    (invocation : Invocation) (choices : CallChoices) :
    c.Effect a (c.call service invocation choices).2 := by
  have hscope : ∀ own feeds, c.session.Steps own feeds (c.options choices).2 :=
    fun own feeds => .single (.newScope c.session none)
  have hslots : (c.options choices).2.slots = c.session.slots := rfl
  unfold call
  split
  · exact c.effect_refl a
  · rename_i o s hoptions
    rw [hoptions] at hscope hslots
    have hopen : ∀ service own feeds, c.session.OwnsNew own →
        c.session.Steps own feeds (c.client.openCall service invocation o s).2 :=
      fun service own feeds hnew => (hscope own feeds).trans
        (c.client.steps_openCall service invocation o (hnew.steps (hscope own feeds)))
    cases invocation.shape with
    | unary =>
        have hcall : ∀ own feeds, c.session.OwnsNew own →
            c.session.Steps own feeds (c.client.unary service invocation o s).2 :=
          fun own feeds hnew => (hscope own feeds).trans
            (c.client.steps_unary service invocation o (hnew.steps (hscope own feeds)))
        dsimp only
        split <;> rename_i heq <;> rw [heq] at hcall <;> exact .same rfl hcall
    | serverStreaming =>
        have hcall := hopen service
        dsimp only [Client.serverStreaming]
        rcases heq : c.client.openCall service invocation o s with
          ⟨(st | ⟨id, r⟩) | _, s'⟩ <;> rw [heq] at hcall
        · exact .same rfl hcall
        · refine effect_opened hscope hslots heq ?_
          rintro hlive id' (hcalls | hsends)
          · cases hlive.symm.trans hcalls
            rfl
          · exact hsends.elim
        · exact .same rfl hcall
    | bidiStreaming =>
        have hcall := hopen .test
        dsimp only [Client.bidiStreaming]
        rcases heq : c.client.openCall .test invocation o s with
          ⟨(st | ⟨id, r⟩) | _, s'⟩ <;> rw [heq] at hcall
        · exact .same rfl hcall
        · refine effect_opened hscope hslots heq ?_
          rintro hlive id' (hcalls | hsends)
          · cases hlive.symm.trans hcalls
            rfl
          · cases hsends
            rfl
        · exact .same rfl hcall
    | clientStreaming =>
        dsimp only
        rw [c.client.clientStreaming_eq o s]
        refine .added ?_ fun own feeds _ => (hscope own feeds).tail (.enqueue s _)
        have hid : ∀ id, s.slots.length = id → c.session.slots.length ≤ id ∧
            id < (s.enqueue (c.client.spec .test .streamingInputCall o s)).2.slots.length := by
          intro id hid
          rw [← hid, ← hslots]
          refine ⟨Nat.le_refl _, ?_⟩
          show s.slots.length < (s.slots ++ [_]).length
          rw [List.length_append, List.length_singleton]
          omega
        rintro id (hcalls | hsends)
        · exact hid id hcalls
        · exact hid id (Option.some.inj hsends)

/-- **Everything that an action does to its conversation.** -/
theorem effects_perform (c : Conversation) (a : ClientAction) :
    c.Effects a (c.perform a).2 := by
  cases a with
  | scope timeout =>
      exact .single (.same rfl fun _ _ _ =>
        .single (.newScope c.session (timeout.map c.session.moment.now.later)))
  | cancel m =>
      simp only [perform]
      split
      · exact .single (.same rfl fun _ _ _ => c.session.steps_cancel _)
      · exact .refl
  | sleep d =>
      exact .single (.same rfl fun _ _ hnew => Pause.operation_tame.run (.fresh d) trivial hnew)
  | reconnect => exact .single (.same rfl fun _ _ _ => .single (.settle c.session))
  | call service invocation choices =>
      exact .single (c.effect_call _ service invocation choices)
  | send m q => exact .single (c.effect_send m q)
  | closeSend m =>
      simp only [perform]
      split
      · rename_i st hstream
        refine .single (.replaced rfl hstream (fun _ => st.live_of_closeSend c.session) ?_
          (fun _ _ _ _ => st.steps_closeSend c.session) fun _ _ _ hkept _ => hkept.closeSend)
        intro id hsends
        cases (st.sender_closeSend c.session).symm.trans hsends
      · exact .refl
  | drop m =>
      simp only [perform]
      split
      · rename_i before hstream
        exact .single (effect_gone rfl hstream fun _ _ _ hown _ =>
          steps_dropHandle c.session before hown)
      · exact .refl
  | receive m =>
      have hreceive : c.Effect (.receive m) (c.receive m).2 := c.effect_receive rfl
      simp only [perform]
      split <;> rename_i heq <;> rw [heq] at hreceive <;> exact .single hreceive
  | receiveAll m => exact effects_receiveAll (c.session.messageBound + 1) rfl c
  | closeAndReceive m =>
      simp only [perform]
      split
      · rename_i st hstream
        have hgone : c.Effect (.closeAndReceive m)
            (c.setStream m .gone (st.closeAndReceive c.session).2) :=
          effect_gone rfl hstream fun _ _ hnew hown hfeeds =>
            st.steps_closeAndReceive hnew (hown st.call rfl) hfeeds
        split <;> rename_i heq <;> rw [heq] at hgone <;> exact .single hgone
      · exact .refl
  | metadata m =>
      simp only [perform]
      split <;> exact .refl

/-- What a client makes of a conversation. -/
def performed (c : Conversation) (actions : List ClientAction) : Conversation :=
  actions.foldl (fun c a => (c.perform a).2) c

/-- What every effect of its actions keeps is kept by a history. -/
theorem performed_induction {P : Conversation → Prop} {actions : List ClientAction}
    (keep : ∀ a ∈ actions, ∀ k k', Effect k a k' → P k → P k') (c : Conversation) (h : P c) :
    P (c.performed actions) := by
  induction actions generalizing c with
  | nil => exact h
  | cons a rest ih =>
      have hstep : P (c.perform a).2 := by
        have heffects := c.effects_perform a
        generalize (c.perform a).2 = c' at heffects ⊢
        induction heffects with
        | refl => exact h
        | tail _ heffect ih => exact keep a List.mem_cons_self _ _ heffect ih
      exact ih (fun b hb => keep b (List.mem_cons_of_mem a hb)) _ hstep

/-- The streams after something has been done: each has been there before and has to do with no
other calls since, or has been added with a new call. -/
theorem Effect.stream {c' : Conversation} (h : c.Effect a c') {m : Nat} {after : Handle}
    (hafter : c'.stream? m = some after) :
    (∃ before, c.stream? m = some before ∧ (∀ id, after.Calls id → before.Calls id) ∧
      ∀ id, after.Sends id → before.Sends id) ∨
      (m = c.streams.length ∧ ∀ id, after.Holds id → c.session.slots.length ≤ id ∧
        id < c'.session.slots.length) := by
  cases h with
  | same hstreams hs =>
      refine Or.inl ⟨after, ?_, fun _ => id, fun _ => id⟩
      rw [stream?, ← hstreams]
      exact hafter
  | @added handle s hholds hs =>
      have hadded : (c.streams ++ [handle])[m]? = some after := hafter
      by_cases hold : m < c.streams.length
      · rw [List.getElem?_append_left hold] at hadded
        exact Or.inl ⟨after, hadded, fun _ => id, fun _ => id⟩
      · have hlength := (List.getElem?_eq_some_iff.mp hadded).1
        rw [List.length_append, List.length_singleton] at hlength
        have hlast : m = c.streams.length := by omega
        subst hlast
        rw [List.getElem?_concat_length] at hadded
        cases hadded
        exact Or.inr ⟨rfl, hholds⟩
  | @replaced m' before after' s hon hbefore hcalls hsends hs hkept =>
      by_cases hsame : m' = m
      · subst hsame
        rw [stream?_setStream hbefore] at hafter
        cases hafter
        exact Or.inl ⟨before, hbefore, hcalls, hsends⟩
      · rw [stream?_setStream_of_ne c hsame] at hafter
        exact Or.inl ⟨after, hafter, fun _ => id, fun _ => id⟩

theorem Effect.steps {c' : Conversation} (h : c.Effect a c') :
    c.session.Steps (fun _ => True) (fun _ => True) c'.session := by
  have htrue : c.session.OwnsNew fun _ => True := fun _ _ => trivial
  cases h with
  | same hstreams hs => exact hs _ _ htrue
  | added hholds hs => exact hs _ _ htrue
  | replaced hon hbefore hcalls hsends hs hkept =>
      exact hs _ _ htrue (fun _ _ => trivial) fun _ _ => trivial

theorem Effect.length {c' : Conversation} (h : c.Effect a c') :
    c.session.slots.length ≤ c'.session.slots.length :=
  h.steps.evolves.length

/-- **What an action makes of the session**, by steps on any calls. -/
theorem steps_perform (c : Conversation) (a : ClientAction) :
    c.session.Steps (fun _ => True) (fun _ => True) (c.perform a).2.session := by
  have heffects := c.effects_perform a
  generalize (c.perform a).2 = c' at heffects ⊢
  induction heffects with
  | refl => exact .refl
  | tail _ heffect ih => exact ih.trans heffect.steps

/-! ### What a history keeps -/

/-- Nothing in a conversation has to do with a call but the stream of a number. -/
structure Reserved (id : CallId) (n : Nat) (c : Conversation) : Prop where
  made : id < c.session.slots.length
  others : ∀ m, m ≠ n → ∀ handle, c.stream? m = some handle → ¬handle.Holds id

theorem Reserved.effect {id : CallId} {c' : Conversation} (h : c.Reserved id n)
    (heffect : c.Effect a c') : c'.Reserved id n := by
  refine ⟨Nat.lt_of_lt_of_le h.made heffect.length, ?_⟩
  intro m hm after hafter hid
  rcases heffect.stream hafter with ⟨before, hbefore, hcalls, hsends⟩ | ⟨_, hholds⟩
  · exact h.others m hm before hbefore (hid.imp (hcalls id) (hsends id))
  · exact Nat.not_lt.mpr (hholds id hid).1 h.made

/-- **What is done to a stream**: it stays as it is, and its call is neither read nor fed, or the
action concerns it and it is replaced by what its functions make of it. -/
theorem Effect.kept_or_replaced {c' : Conversation} {handle : Handle} (h : c.Effect a c')
    (hstream : c.stream? n = some handle) :
    (c'.stream? n = some handle ∧
      ∀ id, c.Reserved id n → c.session.Steps (· ≠ id) (· ≠ id) c'.session) ∨
    a.stream? = some n ∧ ∃ after s, c' = c.setStream n after s ∧
      ∀ id sent P, Handle.Kept id sent P → (∀ q, a = .send n q → sent q) →
        P handle c.session → P after s := by
  cases h with
  | same hstreams hs =>
      refine Or.inl ⟨?_, fun id hreserved => hs _ _ (Session.ownsNew_of_made hreserved.made)⟩
      rw [stream?, hstreams]
      exact hstream
  | added hholds hs =>
      refine Or.inl ⟨?_, fun id hreserved => hs _ _ (Session.ownsNew_of_made hreserved.made)⟩
      show (c.streams ++ [_])[n]? = some handle
      rw [List.getElem?_append_left (List.getElem?_eq_some_iff.mp hstream).1]
      exact hstream
  | @replaced m before after s hon hbefore hcalls hsends hs hkept =>
      by_cases hm : m = n
      · subst hm
        cases hbefore.symm.trans hstream
        exact Or.inr ⟨hon, after, s, rfl, hkept⟩
      · refine Or.inl ⟨(stream?_setStream_of_ne c hm after s).trans hstream, ?_⟩
        intro id hreserved
        have hother : ∀ id', before.Holds id' → id' ≠ id := by
          rintro id' hid' rfl
          exact hreserved.others m hm before hbefore hid'
        exact hs _ _ (Session.ownsNew_of_made hreserved.made)
          (fun id' hid' => hother id' (Or.inl hid')) fun id' hid' => hother id' (Or.inr hid')

/-- The stream of a number has a property, and nothing else has to do with its call. -/
structure HasAt (id : CallId) (P : Handle → Session → Prop) (n : Nat) (c : Conversation) : Prop
    extends Reserved id n c where
  stream : ∃ handle, c.stream? n = some handle ∧ P handle c.session

namespace HasAt

variable {id : CallId} {sent : Request → Prop} {P : Handle → Session → Prop} {c' : Conversation}

/-- The stream that is looked at is the one with the property where the numbers agree. -/
theorem found (h : c.HasAt id P n) {handle : Handle} (hstream : c.stream? n = some handle) :
    P handle c.session := by
  obtain ⟨found, hfound, hP⟩ := h.stream
  rw [hstream] at hfound
  cases hfound
  exact hP

theorem effect (h : c.HasAt id P n) (hkept : Handle.Kept id sent P)
    (hsent : ∀ q, a = .send n q → sent q) (heffect : c.Effect a c') : c'.HasAt id P n := by
  refine ⟨h.toReserved.effect heffect, ?_⟩
  obtain ⟨handle, hstream, hP⟩ := h.stream
  rcases heffect.kept_or_replaced hstream with ⟨hsame, hspared⟩ | ⟨_, after, s, rfl, hself⟩
  · exact ⟨handle, hsame, hkept.evolves hP (hspared id h.toReserved).evolves⟩
  · exact ⟨after, stream?_setStream hstream after s, hself id sent P hkept hsent hP⟩

/-- **A history of a client keeps what a stream keeps**, whatever its requests are. -/
theorem performed (h : c.HasAt id P n) (hkept : Handle.Kept id sent P)
    {actions : List ClientAction} (hsent : ∀ q, .send n q ∈ actions → sent q) :
    (c.performed actions).HasAt id P n :=
  performed_induction (fun _ ha _ _ heffect hk =>
    hk.effect hkept (fun q hq => hsent q (hq ▸ ha)) heffect) c h

end HasAt

/-! ### Whose calls are whose -/

/-- The streams of a conversation have to do with calls that have been made, and no two of them
with the same. -/
structure Orderly (c : Conversation) : Prop where
  made : ∀ m handle, c.stream? m = some handle → ∀ id, handle.Holds id →
    id < c.session.slots.length
  apart : ∀ n m, m ≠ n → ∀ handle other, c.stream? n = some handle → c.stream? m = some other →
    ∀ id, handle.Holds id → ¬ other.Holds id

/-- In an orderly conversation a stream has its calls for itself. -/
theorem Orderly.reserved (h : c.Orderly) {handle : Handle} {id : CallId}
    (hstream : c.stream? n = some handle) (hid : handle.Holds id) : c.Reserved id n :=
  ⟨h.made n handle hstream id hid, fun m hm other hother =>
    h.apart n m hm handle other hstream hother id hid⟩

theorem Orderly.effect (h : c.Orderly) {c' : Conversation} (heffect : c.Effect a c') :
    c'.Orderly := by
  have hstream : ∀ {m after}, c'.stream? m = some after →
      (∃ before, c.stream? m = some before ∧ ∀ id, after.Holds id → before.Holds id) ∨
        (m = c.streams.length ∧ ∀ id, after.Holds id → c.session.slots.length ≤ id ∧
          id < c'.session.slots.length) := by
    intro m after hafter
    refine (heffect.stream hafter).imp_left ?_
    rintro ⟨before, hbefore, hcalls, hsends⟩
    exact ⟨before, hbefore, fun id => Or.imp (hcalls id) (hsends id)⟩
  constructor
  · intro m after hafter id hid
    rcases hstream hafter with ⟨before, hbefore, hholds⟩ | ⟨_, hholds⟩
    · exact Nat.lt_of_lt_of_le (h.made m before hbefore id (hholds id hid)) heffect.length
    · exact (hholds id hid).2
  · intro n m hm handle other hhandle hother id hid hid'
    rcases hstream hhandle with ⟨before, hbefore, hholds⟩ | ⟨hn, hholds⟩ <;>
      rcases hstream hother with ⟨before', hbefore', hholds'⟩ | ⟨hm', hholds'⟩
    · exact h.apart n m hm before before' hbefore hbefore' id (hholds id hid) (hholds' id hid')
    · exact Nat.not_lt.mpr (hholds' id hid').1 (h.made n before hbefore id (hholds id hid))
    · exact Nat.not_lt.mpr (hholds id hid).1 (h.made m before' hbefore' id (hholds' id hid'))
    · exact hm (hm'.trans hn.symm)

theorem orderly_start (client : Client) (server : Backend) : (start client server).Orderly := by
  have hnone : ∀ m, (start client server).stream? m = none := fun _ => List.getElem?_nil
  constructor
  · intro m handle hstream
    rw [hnone] at hstream
    cases hstream
  · intro n m _ handle other hhandle
    rw [hnone] at hhandle
    cases hhandle

theorem Orderly.performed (h : c.Orderly) (actions : List ClientAction) :
    (c.performed actions).Orderly :=
  performed_induction (fun _ _ _ _ heffect hk => hk.effect heffect) c h

/-- **A client that begins with nothing never has two streams that have to do with the same
call.** -/
theorem orderly_performed (client : Client) (server : Backend) (actions : List ClientAction) :
    ((start client server).performed actions).Orderly :=
  (orderly_start client server).performed actions

/-! ### Leaving a stream alone -/

/-- What does not concern a stream leaves it as it is, and its call alone. -/
theorem Effect.untouched {c' : Conversation} {handle : Handle} (h : c.Effect a c')
    (ha : a.stream? ≠ some n) (hstream : c.stream? n = some handle) :
    c'.stream? n = some handle ∧
      ∀ id, c.Reserved id n → c.session.Steps (· ≠ id) (· ≠ id) c'.session :=
  (h.kept_or_replaced hstream).resolve_right fun hreplaced => ha hreplaced.1

theorem perform_keeps {handle : Handle} (ha : a.stream? ≠ some n)
    (hstream : c.stream? n = some handle) : (c.perform a).2.stream? n = some handle := by
  have heffects := c.effects_perform a
  generalize (c.perform a).2 = c' at heffects ⊢
  induction heffects with
  | refl => exact hstream
  | tail _ heffect ih => exact (heffect.untouched ha ih).1

/-- **An action that does not concern a stream** leaves the call alone that the stream has to do
with. -/
theorem perform_spares {handle : Handle} {id : CallId} (horderly : c.Orderly)
    (ha : a.stream? ≠ some n) (hstream : c.stream? n = some handle) (hid : handle.Holds id) :
    c.session.Steps (· ≠ id) (· ≠ id) (c.perform a).2.session := by
  suffices hspares : ∀ c', c.Effects a c' → c'.stream? n = some handle ∧ c'.Reserved id n ∧
      c.session.Steps (· ≠ id) (· ≠ id) c'.session from
    (hspares _ (c.effects_perform a)).2.2
  intro c' heffects
  induction heffects with
  | refl => exact ⟨hstream, horderly.reserved hstream hid, .refl⟩
  | tail _ heffect ih =>
      obtain ⟨hfound, hreserved, hsteps⟩ := ih
      obtain ⟨hleft, hspared⟩ := heffect.untouched ha hfound
      exact ⟨hleft, hreserved.effect heffect, hsteps.trans (hspared id hreserved)⟩

end Conversation

end RpcConformance
