import RpcConformance.Proofs.ClientFrame
import RpcConformance.Proofs.PeerTurns

/-!
# The end of a stream

The reference server ends every call that it has begun to answer: there is a last part among
those that it still has to send, or it will decide on one.  A client that reads a call learns of
the end from the last part.  Nobody else takes it from the client, so it is either to come or
waits to be taken for as long as the client reads the call; and once the server has sent
everything, a client that reads on gets to it.

## Main results

* `Slot.Concludes.evolves` — the end of a call is not lost while others do what they want.
* `Handle.kept_unread` — the functions of a stream do not lose it either.
* `Conversation.end_received` — an end that waits is received after the messages before it.
-/

namespace RpcConformance

/-! ## One call -/

/-- The parts from which a client learns of the end of a call. -/
def ResponsePart.IsLast : ResponsePart → Prop
  | .trailers _ => True
  | .refusal _ => True
  | _ => False

theorem Reception.ended_mem_events (r : Reception) {part : ResponsePart} (h : part.IsLast) :
    ∃ st, Event.ended st ∈ r.events part := by
  cases part with
  | headers md => exact h.elim
  | message m => exact h.elim
  | trailers st =>
      simp only [events]
      split
      · exact ⟨_, List.mem_singleton_self _⟩
      · exact ⟨_, List.mem_singleton_self _⟩
  | refusal st =>
      simp only [events]
      split
      · exact ⟨_, List.mem_cons_of_mem _ (List.mem_singleton_self _)⟩
      · exact ⟨_, List.mem_singleton_self _⟩

namespace Peer

/-- The server still has to send the last part of a response. -/
def Concludes : Peer → Prop
  | replying parts => ∃ part ∈ parts, part.IsLast
  | scripted _ _ => False
  | _ => True

variable {p : Peer}

theorem concludes_single (r : Response Reply) : (replying (single r)).Concludes := by
  rw [single_eq]
  exact ⟨_, List.mem_cons_of_mem _ (List.mem_cons_of_mem _ (List.mem_singleton_self _)), trivial⟩

theorem concludes_ofHandling (sums : Inbox StreamingInputRequest)
    (outputs : Inbox StreamingOutputRequest) (handling : Handling) :
    (ofHandling sums outputs handling).Concludes := by
  cases handling with
  | answered r => exact concludes_single r
  | refused st => exact ⟨.refusal st, List.mem_singleton_self _, trivial⟩
  | summing scope => trivial
  | streaming r => trivial

theorem concludes_ofSum (r : Except Status Nat) : (replying (ofSum r)).Concludes := by
  show ∃ part ∈ ofSum r, part.IsLast
  unfold ofSum
  split
  · exact concludes_single _
  · exact ⟨.refusal _, List.mem_singleton_self _, trivial⟩

/-- As the server goes on, the last part remains to be sent or is sent. -/
theorem Concludes.turn (h : p.Concludes) (now : Instant) :
    (∃ p', p.turn now = .waiting p' ∧ p'.Concludes) ∨
      ∃ part p', p.turn now = .ready (part, p') ∧
        (p'.Concludes ∨ ∃ last, part = some last ∧ last.IsLast) := by
  cases p with
  | scripted run inbox => exact h.elim
  | replying parts =>
      obtain ⟨last, hmem, hlast⟩ := h
      cases parts with
      | nil => cases hmem
      | cons part rest =>
          refine Or.inr ⟨some part, .replying rest, rfl, ?_⟩
          rcases List.mem_cons.mp hmem with rfl | hrest
          · exact Or.inr ⟨last, rfl, hlast⟩
          · exact Or.inl ⟨last, hrest, hlast⟩
  | summing scope state inbox =>
      simp only [Peer.turn]
      rcases (ReferenceServer.sum scope).turn state ⟨moment now, inbox⟩ with ⟨r | state', w⟩
      · exact Or.inr ⟨none, _, rfl, Or.inl (concludes_ofSum r)⟩
      · exact Or.inl ⟨_, rfl, trivial⟩
  | streaming headers s inbox pending =>
      cases headers with
      | some md => exact Or.inr ⟨_, _, rfl, Or.inl trivial⟩
      | none =>
          rw [turn_streaming]
          rcases s.turn ⟨moment now, inbox⟩ with ⟨⟨i, s'⟩ | s', w⟩
          · refine Or.inr ⟨_, _, rfl, ?_⟩
            cases i with
            | response payload => exact Or.inl trivial
            | failed st => exact Or.inr ⟨_, rfl, trivial⟩
            | finished => exact Or.inr ⟨_, rfl, trivial⟩
          · exact Or.inl ⟨_, rfl, trivial⟩

theorem Concludes.push (h : p.Concludes) (compressed : Bool) (r : Request) :
    (p.push compressed r).Concludes := by
  cases p with
  | replying parts => exact h
  | summing scope state inbox => trivial
  | streaming headers s inbox pending => trivial
  | scripted run inbox => exact h.elim

theorem Concludes.close (h : p.Concludes) : p.close.Concludes := by
  cases p with
  | replying parts => exact h
  | summing scope state inbox => trivial
  | streaming headers s inbox pending => trivial
  | scripted run inbox => exact h.elim

end Peer

/-- The end of a call is to come, or waits to be taken. -/
def Call.Concludes (c : Call) : Prop := (∃ st, .ended st ∈ c.waiting) ∨ c.peer.Concludes

theorem Call.concludes_advanceWithin {c : Call} (h : c.Concludes) (now : Instant) (fuel : Nat) :
    (advanceWithin now fuel c).Concludes := by
  induction fuel generalizing c with
  | zero => exact h
  | succ fuel ih =>
      simp only [advanceWithin]
      rcases h with ⟨st, hwaiting⟩ | hpeer
      · rcases c.peer.turn now with ⟨_ | part, p'⟩ | p'
        · exact ih (Or.inl ⟨st, hwaiting⟩)
        · exact ih (Or.inl ⟨st, List.mem_append_left _ hwaiting⟩)
        · exact Or.inl ⟨st, hwaiting⟩
      · rcases hpeer.turn now with ⟨p', hturn, hp'⟩ | ⟨part, p', hturn, hp'⟩
        · rw [hturn]
          exact Or.inr hp'
        · rw [hturn]
          rcases hp' with hp' | ⟨last, rfl, hlast⟩
          · cases part with
            | none => exact ih (Or.inr hp')
            | some part => exact ih (Or.inr hp')
          · obtain ⟨st, hst⟩ := c.reception.ended_mem_events hlast
            exact ih (Or.inl ⟨st, List.mem_append_right _ hst⟩)

/-- A call that its client reads, and whose end its client will learn of. -/
def Slot.Concludes (slot : Slot) : Prop := ∃ c, slot = .live c ∧ c.Concludes

/-- **The end of a call is not lost** while nobody takes the events of the call or gives it
up. -/
theorem Slot.Concludes.evolves {server : Backend} {feeds : Prop} {slot slot' : Slot}
    (h : slot.Concludes) (hevolves : Slot.Evolves server False feeds slot slot') :
    slot'.Concludes := by
  refine hevolves.induction (fun a b hstep ha => ?_) h
  obtain ⟨c, rfl, hc⟩ := ha
  cases hstep with
  | goOn now => exact ⟨_, rfl, Call.concludes_advanceWithin hc now _⟩
  | touched htouch =>
      cases htouch with
      | push _ r => exact ⟨_, rfl, hc.imp_right (·.push _ r)⟩
      | close => exact ⟨_, rfl, hc.imp_right (·.close)⟩
      | giveUp hown => exact hown.elim
      | take hown => exact hown.elim

/-! ## One stream -/

/-- A call of a session is read, and its client will learn of its end. -/
def Session.ConcludesAt (s : Session) (id : CallId) : Prop :=
  id < s.slots.length ∧ (s.slot id).Concludes

section Stream

variable {feeds : CallId → Prop} {s s' : Session} {id : CallId} {scope : Scope}

theorem Session.ConcludesAt.evolves (h : s.ConcludesAt id) (hs : s.Evolves (· ≠ id) feeds s') :
    s'.ConcludesAt id := by
  have hslot := hs.slot id h.1
  rw [show (id ≠ id) = False from eq_false fun hne => hne rfl] at hslot
  exact ⟨Nat.lt_of_lt_of_le h.1 hs.length, h.2.evolves hslot⟩

/-- An event that is taken is not the end, or it is the end. -/
theorem Session.ConcludesAt.take (h : s.ConcludesAt id) {event : Event}
    (htake : s.take id = some (event, s')) (hevent : ∀ st, event ≠ .ended st) :
    s'.ConcludesAt id := by
  obtain ⟨hid, c, hslot, hc⟩ := h
  simp only [Session.take, hslot] at htake
  split at htake
  · rename_i first rest hwaiting
    cases htake
    refine ⟨Nat.lt_of_lt_of_eq hid List.length_set.symm, _, slot_setSlot_self _ hid, ?_⟩
    refine hc.imp_left ?_
    rintro ⟨st, hst⟩
    refine ⟨st, ?_⟩
    rw [hwaiting] at hst
    exact (List.mem_cons.mp hst).resolve_left fun hsame => hevent st hsame.symm
  · cases htake

/-- Waiting for what comes next does not lose the end, and neither does a message. -/
theorem nextOperation_concludes (h : s.ConcludesAt id)
    {t : Turn Unit (Except Status Received)} (hturn : (nextOperation id).turn () s = (t, s'))
    (ht : t = .waiting () ∨ ∃ m, t = .ready (.ok (.message m))) : s'.ConcludesAt id := by
  simp only [nextOperation] at hturn
  rcases htake : s.take id with _ | ⟨headers | m | st, s₁⟩ <;> rw [htake] at hturn
  · cases hturn
    exact h
  · cases hturn
    exact h.take htake (by rintro _ ⟨⟩)
  · cases hturn
    exact h.take htake (by rintro _ ⟨⟩)
  · obtain ⟨rfl, -⟩ := Prod.mk.inj hturn
    rcases ht with ht | ⟨m, ht⟩
    · cases ht
    · by_cases hcode : st.code = .ok <;> simp only [hcode, if_true, if_false] at ht <;> cases ht

theorem nextOperation_play (h : s.ConcludesAt id) {beats : List (Beat Operation.Tick)}
    {g : Scope.Guarded Unit}
    (hplay : (scope.guard (nextOperation id)).play Operation.Tick.act (.fresh ()) s beats =
      (.waiting g, s')) : s'.ConcludesAt id := by
  have hinner := Scope.play_guard scope (nextOperation id) Operation.Tick.act hplay
  refine Operation.play_waiting_induction (P := (Session.ConcludesAt · id)) ?_ ?_ h hinner
  · intro _ w _ w' hturn hw
    exact nextOperation_concludes hw hturn (Or.inl rfl)
  · intro t w hw
    have htick : w.Steps (· ≠ id) (fun _ => True) (t.act w) := Session.steps_tick t w
    exact hw.evolves htick.evolves

/-- A receiving side that reads no call but a given one, and will learn of its end. -/
def Responses.Unread (id : CallId) (r : Responses) (s : Session) : Prop :=
  ∀ id', r.state = .live id' → id' = id ∧ s.ConcludesAt id

namespace Responses.Unread

variable {r : Responses}

theorem evolves (h : r.Unread id s) (hs : s.Evolves (· ≠ id) feeds s') : r.Unread id s' :=
  fun id' hlive => ⟨(h id' hlive).1, (h id' hlive).2.evolves hs⟩

/-- **Receiving does not lose the end**: what is received is a message, or the stream is over
for its client. -/
theorem receive (h : r.Unread id s) (scope : Scope) :
    (r.receive scope s).2.1.Unread id (r.receive scope s).2.2 := by
  rcases hreceive : r.receive scope s with ⟨answer, r', s'⟩
  intro id' hlive
  have hbefore := r.live_of_receive scope s (by rw [hreceive]; exact hlive)
  obtain ⟨rfl, hconcludes⟩ := h id' hbefore
  refine ⟨rfl, ?_⟩
  simp only [Responses.receive, hbefore] at hreceive
  rcases hrun : s.run (scope.guard (nextOperation id')) (.fresh ()) with
    ⟨(st | m | trailers) | _, s₁⟩ <;> rw [hrun] at hreceive
  · cases hreceive
    cases hlive
  · cases hreceive
    obtain ⟨beats, hplay⟩ := (scope.guard (nextOperation id')).run_answered none hrun
    obtain ⟨before, rest, g, w₁, _, hwaited, hturn⟩ := Operation.play_ready_iff.mp hplay
    obtain ⟨_, hok⟩ := Scope.guard_turn_ok scope (nextOperation id') hturn
    exact nextOperation_concludes (nextOperation_play hconcludes hwaited) hok (Or.inr ⟨m, rfl⟩)
  · dsimp only at hreceive
    split at hreceive <;> cases hreceive <;> cases hlive
  · cases hreceive
    obtain ⟨beats, g, hplay⟩ := (scope.guard (nextOperation id')).run_unfinished none hrun
    exact nextOperation_play hconcludes hplay

end Responses.Unread

theorem BidiStream.unread_send {st : BidiStream} (h : st.responses.Unread id s) (q : Request) :
    (st.send q s).2.1.responses.Unread id (st.send q s).2.2 := by
  intro id' hlive
  obtain ⟨rfl, hconcludes⟩ := h id' (st.live_of_send q s hlive)
  refine ⟨rfl, ?_⟩
  unfold send at hlive ⊢
  split
  · exact hconcludes
  · rename_i sender hsender
    have htame : (sendOperation sender q).Tame (· ≠ id') (fun _ => True) fun _ => True :=
      sendOperation_tame trivial q
    have hnew := Session.ownsNew_of_made hconcludes.1
    have hrun := ((htame.guard st.scope).run (.fresh ()) trivial hnew).evolves
    simp only [hsender] at hlive
    split <;> rename_i heq <;> rw [heq] at hrun
    · exact hconcludes.evolves hrun
    · exact hconcludes.evolves hrun
    · exact hconcludes.evolves hrun
    · rw [heq] at hlive
      cases hlive

/-! ## Reading to the end -/

/-- A client receives what waits at the front of a call at once, in a scope that has not been
triggered. -/
theorem Responses.receive_first {r : Responses} {c : Call} {event : Event} {rest : List Event}
    (hlive : r.state = .live id) (hslot : s.slot id = .live c)
    (hwaiting : c.waiting = event :: rest) (hscope : scope.failure? s.moment = none) :
    (∀ m, event = .message m → r.receive scope s =
      (.answered (.ok (some m)), r, s.setSlot id (.live { c with waiting := rest }))) ∧
    ∀ st, event = .ended st → ∃ answer r' s', r.receive scope s = (.answered answer, r', s') ∧
      ∀ m, answer ≠ .ok (some m) := by
  have htake := Session.take_live hslot hwaiting
  constructor
  · rintro m rfl
    have hturn : (nextOperation id).turn () s =
        (.ready (.ok (.message m)), s.setSlot id (.live { c with waiting := rest })) := by
      simp only [nextOperation, htake]
    have hrun := Operation.run_guard_of_first (nextOperation id) () hscope hturn rfl
    simp only [receive, hlive, hrun]
  · rintro st rfl
    have hturn : (nextOperation id).turn () s =
        (.ready (if st.code = .ok then .ok (.finished st.metadata) else .error st),
          s.setSlot id (.live { c with waiting := rest })) := by
      simp only [nextOperation, htake]
    have hrun := Operation.run_guard_of_first (nextOperation id) () hscope hturn rfl
    by_cases hcode : st.code = .ok
    · rw [if_pos hcode] at hrun
      have hcheck : scope.check (s.setSlot id (.live { c with waiting := rest })).moment =
          .ok () := by
        show scope.check s.moment = .ok ()
        rw [Scope.check, hscope]
      simp only [receive, hlive, hrun, hcheck]
      exact ⟨_, _, _, rfl, by rintro _ ⟨⟩⟩
    · rw [if_neg hcode] at hrun
      simp only [receive, hlive, hrun]
      exact ⟨_, _, _, rfl, by rintro _ ⟨⟩⟩

end Stream

/-- A stream that reads no call but a given one, and will learn of its end. -/
def Handle.Unread (id : CallId) (handle : Handle) (s : Session) : Prop :=
  ∀ r scope, handle.responses? = some (r, scope) → r.Unread id s

/-- **The functions of a stream do not lose its end.** -/
theorem Handle.kept_unread (id : CallId) (sent : Request → Prop) :
    Handle.Kept id sent (Handle.Unread id) where
  evolves h hs r scope hresponses := (h r scope hresponses).evolves hs
  gone _ := nofun
  receive h hresponses r' scope' hafter := by
    rw [Handle.responses?_withResponses hresponses] at hafter
    cases hafter
    exact (h _ _ hresponses).receive _
  send {_ _ q} _ h r' scope' hafter := by
    cases hafter
    exact BidiStream.unread_send (h _ _ rfl) q
  closeSend {st s} h r' scope' hafter := by
    cases hafter
    rw [(st.responses_closeSend s).1]
    intro id' hlive
    obtain ⟨rfl, hconcludes⟩ := h _ _ rfl id' hlive
    have hsteps : s.Steps (· ≠ id') (fun _ => True) (st.closeSend s).2 :=
      st.steps_closeSend s fun _ _ => trivial
    exact ⟨rfl, hconcludes.evolves hsteps.evolves⟩
  clientSend _ _ := nofun

namespace Conversation

variable {k : Conversation} {n : Nat} {handle : Handle} {r : Responses} {scope : Scope}
  {id : CallId}

/-- **An end that waits is received** after the messages before it, in a scope that has not been
triggered. -/
theorem end_received {c : Call} (hstream : k.stream? n = some handle)
    (hresponses : handle.responses? = some (r, scope)) (hlive : r.state = .live id)
    (hid : id < k.session.slots.length) (hslot : k.session.slot id = .live c)
    (hopened : ∀ headers, .opened headers ∉ c.waiting) (hended : ∃ st, .ended st ∈ c.waiting)
    (hscope : scope.failure? k.session.moment = none) :
    ∃ m answer k', (k.performed (List.replicate m (.receive n))).receive n = (some answer, k') ∧
      ∀ q, answer ≠ .ok (some q) := by
  -- The induction is on what waits: every message that is received leaves less of it.
  generalize hwaiting : c.waiting = events at hopened hended
  induction events generalizing k handle c with
  | nil =>
      obtain ⟨st, hst⟩ := hended
      cases hst
  | cons event rest ih =>
      obtain ⟨hmessage, hend⟩ := Responses.receive_first hlive hslot hwaiting hscope
      cases event with
      | opened headers => exact absurd (List.mem_cons_self ..) (hopened headers)
      | ended st =>
          obtain ⟨answer, r', s', hreceive, hanswer⟩ := hend st rfl
          refine ⟨0, answer, k.setStream n (handle.withResponses r') s', ?_, hanswer⟩
          show k.receive n = _
          rw [receive_eq hstream hresponses, hreceive]
          rfl
      | message m =>
          have hreceive := receive_eq hstream hresponses
          rw [hmessage m rfl] at hreceive
          obtain ⟨st, hst⟩ := hended
          have hrest : .ended st ∈ rest := (List.mem_cons.mp hst).resolve_left nofun
          obtain ⟨count, answer, k', hlast, hanswer⟩ := ih
            (k := (k.receive n).2) (c := { c with waiting := rest })
            (by rw [hreceive]; exact stream?_setStream hstream _ _)
            (Handle.responses?_withResponses hresponses r)
            (by rw [hreceive]; exact Nat.lt_of_lt_of_eq hid List.length_set.symm)
            (by rw [hreceive]; exact Session.slot_setSlot_self _ hid)
            (by rw [hreceive]; exact hscope) rfl
            (fun headers hmem => hopened headers (List.mem_cons_of_mem _ hmem)) ⟨st, hrest⟩
          refine ⟨count + 1, answer, k', ?_, hanswer⟩
          have hfirst : (k.perform (.receive n)).2 = (k.receive n).2 := by
            simp only [perform, hreceive]
            rfl
          rw [List.replicate_succ]
          show ((k.perform (.receive n)).2.performed _).receive n = _
          rw [hfirst]
          exact hlast

end Conversation

end RpcConformance
