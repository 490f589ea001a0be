import RpcConformance.Proofs.TriggeredScope

/-!
# What a server gets from a stream of requests

A stream of requests feeds one call, which runs by itself.  The requests that the client has sent
with success are the ones that reach the server's side of the call, each once and in their order,
however many there are and wherever the server and the client's other calls go on in between.  This
lasts as long as the scope of the call has not been triggered; then the client gives the call up,
and a scope that has been triggered stays so.

## Main results

* `Conversation.Feeding.performed` — a history keeps what each single step of feeding keeps.
* `Slot.fedKept` — the server gets the requests that were sent with success, and no others.
-/

namespace RpcConformance

/-! ## One call -/

namespace Peer

theorem reads_push (p : Peer) (compressed : Bool) (q : Request) :
    (p.push compressed q).reads = p.reads := by
  cases p <;> rfl

end Peer

/-- Every server reads the requests of a call with many requests when the call begins. -/
theorem Backend.reads_accept (server : Backend) {spec : CallSpec} (hservice : spec.service = .test)
    (hinvocation : spec.invocation = .streamingInputCall) (now : Instant) (earlier : Nat) :
    (server.accept spec now earlier).reads = true := by
  rcases spec with ⟨service, invocation, md, compressed, connected⟩
  subst hservice hinvocation
  cases server with
  | scripted methods => rfl
  | reference server => cases compressed <;> rfl

namespace Call

/-- A call that began as another one has got some requests since then, in their order and each
while the server still read, and behind them the end of the input where it is closed. -/
inductive Fed (c₀ : Call) : List Request → Bool → Call → Prop
  | begun : Fed c₀ [] false c₀
  | goOn {requests : List Request} {closed : Bool} {c : Call} (now : Instant)
      (h : Fed c₀ requests closed c) : Fed c₀ requests closed (c.advance now)
  | push {requests : List Request} {c : Call} (q : Request) (hreads : c.peer.reads = true)
      (h : Fed c₀ requests false c) : Fed c₀ (requests ++ [q]) false (c.push q)
  | close {requests : List Request} {c : Call} (h : Fed c₀ requests false c) :
      Fed c₀ requests true c.close

end Call

/-- Requests that arrive together, while the server reads. -/
theorem Call.pushAll_induction {P : List Request → Call → Prop}
    (hpush : ∀ {requests c} (q : Request), c.peer.reads = true → P requests c →
      P (requests ++ [q]) (c.push q))
    {requests : List Request} {c : Call} (h : P requests c) (hreads : c.peer.reads = true)
    (more : List Request) : P (requests ++ more) (more.foldl (fun c r => c.push r) c) := by
  induction more generalizing requests c with
  | nil =>
      rw [List.append_nil]
      exact h
  | cons q rest ih =>
      have hnext := ih (hpush q hreads h) ((Peer.reads_push _ _ _).trans hreads)
      rw [List.append_assoc] at hnext
      exact hnext

/-! ## A place in the table of calls -/

/-- A call of a given kind, queued or begun, to which some requests have been sent. -/
inductive Slot.Fed (server : Backend) (spec : CallSpec) (requests : List Request) (closed : Bool) :
    Slot → Prop
  | queued : Fed server spec requests closed (.queued spec requests closed)
  | live {s₀ : Session} {c : Call} (hserver : s₀.server = server)
      (h : (s₀.accept spec).1.Fed requests closed c) : Fed server spec requests closed (.live c)
  /-- There is no server that could get anything. -/
  | unconnected {c : Call} (h : spec.connected = false) : Fed server spec requests closed (.live c)

section Slots

variable {server : Backend} {spec : CallSpec} {requests : List Request} {closed : Bool}
  {s s' : Session} {id : CallId} {slot : Slot}

theorem Slot.Fed.ne_vacant (h : Slot.Fed server spec requests closed slot) : slot ≠ .vacant := by
  cases h <;> exact nofun

/-- A queued call begins with the requests that have been sent to it. -/
theorem Slot.Fed.settle (hservice : spec.service = .test)
    (hinvocation : spec.invocation = .streamingInputCall) (hserver : s.server = server)
    (h : (s.slot id).Fed server spec requests closed) :
    (s.settle.slot id).Fed server spec requests closed := by
  obtain ⟨s₁, hserver₁, -, hslot⟩ := s.slot_settle id
  rw [hslot]
  generalize s.slot id = slot at h
  cases h with
  | unconnected hnone => exact .unconnected hnone
  | live hserver₀ hfed => exact .live hserver₀ (hfed.goOn _)
  | queued =>
      cases hconnected : spec.connected with
      | false => exact .unconnected hconnected
      | true =>
          have hreads : (s₁.accept spec).1.peer.reads = true :=
            s₁.server.reads_accept hservice hinvocation _ _
          have hbegun : (s₁.accept spec).1.Fed [] false (s₁.accept spec).1 := .begun
          have hfed := Call.pushAll_induction
            (P := fun requests c => (s₁.accept spec).1.Fed requests false c)
            (fun q hreads h => h.push q hreads) hbegun hreads requests
          rw [List.nil_append] at hfed
          rw [Session.begun_queued, s₁.reach_connected hconnected]
          refine .live (hserver₁.trans hserver) (.goOn _ ?_)
          cases closed with
          | false => exact hfed
          | true => exact hfed.close

theorem Slot.Fed.close (h : (s.slot id).Fed server spec requests false) :
    ((s.close id).slot id).Fed server spec requests true := by
  generalize hslot : s.slot id = slot at h
  cases h with
  | queued =>
      rw [Session.slot_close_queued hslot]
      exact .queued
  | live hserver hfed =>
      rw [Session.slot_close_live hslot]
      exact .live hserver hfed.close
  | unconnected hnone =>
      rw [Session.slot_close_live hslot]
      exact .unconnected hnone

/-- A request that is taken is the next one that the call gets, and one that is not taken changes
nothing. -/
theorem Slot.Fed.sent {q : Request} {b : Bool} (hsent : Sent id q s b s')
    (h : (s.slot id).Fed server spec requests false) :
    (s'.slot id).Fed server spec (if b then requests ++ [q] else requests) false := by
  have hid := Session.lt_length_of_slot h.ne_vacant
  cases hsent with
  | lost hvacant => exact absurd hvacant h.ne_vacant
  | unread => exact h
  | queued hslot =>
      rw [hslot] at h
      cases h
      rw [Session.slot_setSlot_self _ hid]
      exact .queued
  | pushed hslot hreads =>
      rw [hslot] at h
      rw [Session.slot_setSlot_self _ hid]
      cases h with
      | live hserver hfed => exact .live hserver (hfed.push q hreads)
      | unconnected hnone => exact .unconnected hnone

end Slots

/-! ## Histories -/

/-- The requests that were sent with success, of all that were sent. -/
def taken (log : List (Request × ClientAnswer)) : List Request :=
  log.filterMap fun
    | (q, .sent) => some q
    | _ => none

/-- What is kept of a call while its client feeds it, with a log of the requests that the client
has sent and what it has learned of each. -/
structure Slot.FeedKept (server : Backend)
    (P : List (Request × ClientAnswer) → Slot → Moment → Prop) : Prop where
  settle : ∀ {log id} {s : Session}, s.server = server → P log (s.slot id) s.moment →
    P log (s.settle.slot id) s.moment
  pass : ∀ {log slot m m'}, m.Precedes m' → P log slot m → P log slot m'
  sent : ∀ {log id q s b s'}, Sent id q s b s' → P log (s.slot id) s.moment →
    P (log ++ [(q, Conversation.sendAnswer (.answered (sendResult b)))]) (s'.slot id) s'.moment

theorem taken_concat (log : List (Request × ClientAnswer)) (q : Request) (b : Bool) :
    taken (log ++ [(q, Conversation.sendAnswer (.answered (sendResult b)))]) =
      if b then taken log ++ [q] else taken log := by
  rw [taken, List.filterMap_append]
  cases b with
  | false => exact List.append_nil _
  | true => rfl

/-- A request is taken, or the client learns that the call has ended. -/
theorem Slot.answersKept (server : Backend) :
    Slot.FeedKept server fun log _ _ => ∀ p ∈ log, p.2 = .sent ∨ p.2 = .sendError .endOfStream where
  settle _ h := h
  pass _ h := h
  sent {_ _ _ _ b _} _ h := by
    intro p hp
    rcases List.mem_append.mp hp with hp | hp
    · exact h p hp
    · rw [List.mem_singleton.mp hp]
      cases b with
      | true => exact Or.inl rfl
      | false => exact Or.inr rfl

/-- **The server gets the requests that were sent with success**, and no others. -/
theorem Slot.fedKept {server : Backend} {spec : CallSpec} (hservice : spec.service = .test)
    (hinvocation : spec.invocation = .streamingInputCall) :
    Slot.FeedKept server fun log slot _ => slot.Fed server spec (taken log) false where
  settle hserver h := h.settle hservice hinvocation hserver
  pass _ h := h
  sent hsent h := by
    rw [taken_concat]
    exact h.sent hsent

namespace Conversation

variable {k : Conversation} {n : Nat} {id : CallId} {scope : Scope} {server : Backend}
  {log : List (Request × ClientAnswer)} {P : List (Request × ClientAnswer) → Slot → Moment → Prop}

/-- What an action sends on a stream, and what the client learns of it. -/
def sendIn (k : Conversation) (n : Nat) : ClientAction → List (Request × ClientAnswer)
  | .send m q => if m = n then [(q, (k.perform (.send m q)).1)] else []
  | _ => []

/-- What a history sends on a stream. -/
def sends (n : Nat) : Conversation → List ClientAction → List (Request × ClientAnswer)
  | _, [] => []
  | k, a :: rest => k.sendIn n a ++ sends n (k.perform a).2 rest

theorem sendIn_of_ne {a : ClientAction} (h : ∀ q, a ≠ .send n q) : k.sendIn n a = [] := by
  cases a with
  | send m q =>
      have hm : m ≠ n := fun hm => h q (by rw [hm])
      rw [sendIn, if_neg hm]
  | _ => rfl

/-- A client feeds a call by a stream of requests, and until its scope is triggered everything that
it sends there is logged. -/
structure Feeding (P : List (Request × ClientAnswer) → Slot → Moment → Prop) (server : Backend)
    (n : Nat) (id : CallId) (scope : Scope) (log : List (Request × ClientAnswer))
    (k : Conversation) : Prop where
  orderly : k.Orderly
  server : k.session.server = server
  stream : ∃ st : ClientStream, k.stream? n = some (.client st) ∧ st.call = id ∧
    st.scope = scope ∧ (scope.failure? k.session.moment = none →
      st.sender = some id ∧ P log (k.session.slot id) k.session.moment)

/-- The server of a client stays the same. -/
theorem server_performed (k : Conversation) (actions : List ClientAction) :
    (k.performed actions).session.server = k.session.server := by
  induction actions generalizing k with
  | nil => rfl
  | cons a rest ih => exact (ih _).trans (k.steps_perform a).evolves.server

theorem Orderly.perform (h : k.Orderly) (a : ClientAction) : (k.perform a).2.Orderly :=
  h.performed [a]

namespace Feeding

/-- What holds of the call as long as its scope has not been triggered. -/
theorem kept (h : k.Feeding P server n id scope log) {st : ClientStream}
    (hstream : k.stream? n = some (.client st))
    (huntriggered : st.scope.failure? k.session.moment = none) :
    st.sender = some st.call ∧ P log (k.session.slot st.call) k.session.moment := by
  obtain ⟨st', hstream', hcall, hscope, hfed⟩ := h.stream
  rw [hstream] at hstream'
  cases hstream'
  rw [hscope] at huntriggered
  rw [hcall]
  exact hfed huntriggered

/-- What is done on other streams, or on none, goes by. -/
theorem spared (h : k.Feeding P server n id scope log) (hkept : Slot.FeedKept server P)
    {a : ClientAction} (ha : a.stream? ≠ some n) :
    (k.perform a).2.Feeding P server n id scope log := by
  obtain ⟨st, hstream, hcall, hscope, hfed⟩ := h.stream
  have hevolves := (k.steps_perform a).evolves
  refine ⟨h.orderly.perform a, hevolves.server.trans h.server, st, perform_keeps ha hstream, hcall,
    hscope, fun huntriggered => ?_⟩
  obtain ⟨hsender, hP⟩ := hfed (Scope.untriggered_of_precedes hevolves.moment huntriggered)
  refine ⟨hsender, ?_⟩
  have hholds : (Handle.client st).Holds id := Or.inl hcall
  have hid := h.orderly.made n _ hstream id hholds
  refine (perform_spares h.orderly ha hstream hholds).slot hid (fun hne => hne rfl)
    (fun hne => hne rfl) ?_ (fun _ => hkept.pass) hP
  exact fun s₁ hserver₁ => hkept.settle (hserver₁.trans h.server)

/-- What is sent on the stream is logged. -/
theorem send (h : k.Feeding P server n id scope log) (hkept : Slot.FeedKept server P)
    (q : Request) : (k.perform (.send n q)).2.Feeding P server n id scope
      (log ++ [(q, (k.perform (.send n q)).1)]) := by
  obtain ⟨st, hstream, hcall, hscope, hfed⟩ := h.stream
  have hevolves := (k.steps_perform (.send n q)).evolves
  have hperform := perform_send_client hstream q
  refine ⟨h.orderly.perform _, hevolves.server.trans h.server, (st.send q k.session).2.1, ?_, ?_,
    ?_, fun huntriggered => ?_⟩
  · rw [hperform]
    exact stream?_setStream hstream _ _
  · rw [st.call_send, hcall]
  · rw [st.scope_send, hscope]
  · have hbefore := Scope.untriggered_of_precedes hevolves.moment huntriggered
    obtain ⟨hsender, hP⟩ := hfed hbefore
    rw [← hscope] at hbefore
    obtain ⟨b, s', hsend, hsent⟩ := ClientStream.send_of_untriggered hsender hbefore q
    rw [hperform, hsend]
    refine ⟨hsender, ?_⟩
    rcases hsent with hsent | hsent
    · exact hkept.sent hsent hP
    · refine hkept.sent hsent ?_
      rw [Session.moment_settle]
      exact hkept.settle h.server hP

/-- One action. -/
theorem perform (h : k.Feeding P server n id scope log) (hkept : Slot.FeedKept server P)
    {a : ClientAction} (hdrop : a ≠ .drop n) (hclose : a ≠ .closeAndReceive n) :
    (k.perform a).2.Feeding P server n id scope (log ++ k.sendIn n a) := by
  by_cases hsends : ∃ q, a = .send n q
  · obtain ⟨q, rfl⟩ := hsends
    rw [sendIn, if_pos rfl]
    exact h.send hkept q
  · rw [sendIn_of_ne fun q hq => hsends ⟨q, hq⟩, List.append_nil]
    obtain ⟨st, hstream, -⟩ := h.stream
    rcases client_step hstream hdrop hclose with hon | hsame | hq
    · exact h.spared hkept hon
    · rw [hsame]
      exact h
    · exact absurd hq hsends

/-- **A history keeps what each step of feeding keeps**, of everything that is sent in it. -/
theorem performed (h : k.Feeding P server n id scope log) (hkept : Slot.FeedKept server P)
    {actions : List ClientAction} (hdrop : .drop n ∉ actions)
    (hclose : .closeAndReceive n ∉ actions) :
    (k.performed actions).Feeding P server n id scope (log ++ sends n k actions) := by
  induction actions generalizing k log with
  | nil =>
      rw [sends, List.append_nil]
      exact h
  | cons a rest ih =>
      obtain ⟨ha, hrest⟩ := not_or.mp (List.mem_cons.not.mp hdrop)
      obtain ⟨ha', hrest'⟩ := not_or.mp (List.mem_cons.not.mp hclose)
      rw [sends, ← List.append_assoc]
      exact ih (h.perform hkept (Ne.symm ha) (Ne.symm ha')) hrest hrest'

end Feeding

end Conversation

end RpcConformance
