import RpcConformance.Proofs.EchoParts
import RpcConformance.Proofs.Sending
import RpcConformance.Proofs.StreamEnd

/-!
# Echoes from end to end

A client attaches values to a call; the server finds them, sends them back on whatever way the
call ends, and the client finds them again.  A call with a single response is answered in one
round, and so is the opening of a stream.  From then on the client may do anything at all, with
this call and with others: what it sees of this call carries the values, unless the client
itself has ended it.  It does so with the failure of its own scope, or where a message that it has
asked for on this very stream is too long.

## Main results

* `Client.unary_echoed` — what a call with a single response gives.
* `Client.openCall_echoed` — what opening a stream gives.
* `Handle.kept_echoing` — a stream with echoes stays one, whatever the client does that asks for
  nothing else.
* `Conversation.seen_of_echoing` — what the client sees of such a stream.
* `echoes_survive_the_round_trip` — all of it, from the attached values to the observed ones.
-/

namespace RpcConformance

variable {e : Echo} {compressed : Bool} {asked : Reply → Prop}

/-! ## Beginning a call -/

/-- The reference server handles every call of its own service whose request it can read. -/
theorem Backend.accept_reference (server : ReferenceServer) (spec : CallSpec)
    (hservice : spec.service = .test)
    (hlength : spec.compressed = true ∨ spec.invocation.requestLength ≤ maxMessageLength)
    (now : Instant) (earlier : Nat) :
    ∃ sums outputs, outputs.arrivals = [] ∧
      (Backend.reference server).accept spec now earlier =
        Peer.ofHandling sums outputs (server.handle spec.invocation spec.metadata now 0) := by
  have hshort : (!spec.compressed &&
      decide (maxMessageLength < spec.invocation.requestLength)) = false := not_overlong hlength
  simp only [accept, hservice, hshort]
  by_cases hopen : spec.isOpenEnded = true
  · exact ⟨.empty, .empty, rfl, by rw [if_pos hopen]; rfl⟩
  · exact ⟨.none, .none, rfl, by rw [if_neg hopen]; rfl⟩

/-- A call that a reference server handles: there is a connection to it, the method echoes, and
the request is not too long to be read. -/
structure Served (c : Client) (s : Session) (server : ReferenceServer) (invocation : Invocation) :
    Prop where
  reachable : c.reachable = true
  server : s.server = .reference server
  echoes : invocation.Echoes
  length : c.target.compression = true ∨ invocation.requestLength ≤ maxMessageLength

section Beginning

variable {c : Client} {s : Session} {server : ReferenceServer} {invocation : Invocation}

/-- The handler of the call sees the values that were attached. -/
theorem Served.handled (h : Served c s server invocation)
    (hasked : ∀ m, server.Asked invocation m → asked m) (o : CallOptions) :
    ∃ handling sums outputs,
      EchoedHandling (Echo.ofMetadata o.metadata) asked invocation handling ∧
      (invocation.shape = .unary → ∀ r, handling ≠ .streaming r) ∧
      outputs.Proper (·.Within asked) ∧
      (s.accept (c.spec .test invocation o s)).1 =
        ⟨Peer.ofHandling sums outputs handling, ⟨invocation, c.target.compression, false⟩, [],
          0⟩ := by
  have hhandled :=
    server.echoed_handle (o.requestMetadata s.moment) h.echoes hasked s.moment.now 0
  rw [Echo.ofMetadata_requestMetadata] at hhandled
  have hunary := fun hshape : invocation.shape = .unary =>
    server.handle_ne_streaming (o.requestMetadata s.moment) hshape s.moment.now 0
  obtain ⟨sums, outputs, houtputs, haccept⟩ := Backend.accept_reference server
    (c.spec .test invocation o s) rfl h.length s.moment.now
    (s.seen.countP fun call => call.path = (c.spec .test invocation o s).path)
  have hproper : outputs.Proper (·.Within asked) := by
    intro a ha
    rw [houtputs] at ha
    exact absurd ha List.not_mem_nil
  refine ⟨_, sums, outputs, hhandled, hunary, hproper, ?_⟩
  simp only [Session.accept, h.server, haccept]
  rfl

/-- Whatever handles the call, it begins before its headers. -/
theorem Served.begun (h : Served c s server invocation)
    (hasked : ∀ m, server.Asked invocation m → asked m) (o : CallOptions) :
    (s.accept (c.spec .test invocation o s)).1.Begun (Echo.ofMetadata o.metadata)
      c.target.compression asked := by
  obtain ⟨handling, sums, outputs, hhandled, _, houtputs, haccept⟩ := h.handled hasked o
  rw [haccept]
  exact ⟨rfl, rfl, Peer.begun_ofHandling hhandled sums houtputs, rfl⟩

/-- Whatever handles the call, it will come to an end. -/
theorem Served.concludes (h : Served c s server invocation) (o : CallOptions) :
    (s.accept (c.spec .test invocation o s)).1.Concludes := by
  obtain ⟨handling, sums, outputs, _, _, _, haccept⟩ := h.handled (fun _ => id) o
  rw [haccept]
  exact Or.inr (Peer.concludes_ofHandling sums outputs handling)

/-- **A call with a single response is answered in one round**, with the scope's own failure
where the scope has been triggered, and with the echoes where it has not. -/
theorem Client.unary_echoed (h : Served c s server invocation)
    (hshape : invocation.shape = .unary) (o : CallOptions) :
    ∃ r s', c.unary .test invocation o s = (.answered r, s') ∧
      (∀ own, o.scope.failure? s.moment = some own → r = .error own) ∧
      (o.scope.failure? s.moment = none →
        SingleEchoed (Echo.ofMetadata o.metadata) c.target.compression
          (server.Asked invocation) r) := by
  cases hscope : o.scope.failure? s.moment with
  | some own =>
      have hrun := Operation.run_guard_of_triggered unaryOperation
        (.unsent (c.spec .test invocation o s)) hscope
      refine ⟨.error own, _, by simp only [unary_eq, h.reachable, hrun]; rfl, ?_, by rintro ⟨⟩⟩
      intro own' hown
      cases hown
      rfl
  | none =>
      obtain ⟨handling, sums, outputs, hhandled, hunary, _, haccept⟩ := h.handled (fun _ => id) o
      have hslot := s.slot_settle_begin (c.spec .test invocation o s)
      rw [haccept] at hslot
      obtain ⟨r, habsorb, hechoed⟩ := Call.single_advance
        (c := ⟨Peer.ofHandling sums outputs handling,
          ⟨invocation, c.target.compression, false⟩, [], 0⟩)
        hhandled (hunary hshape) rfl rfl rfl rfl s.moment.now
      have hsecond : ∃ s'', unaryOperation.turn
          (.sent (s.begin (c.spec .test invocation o s)).1 .unopened)
          (s.begin (c.spec .test invocation o s)).2.settle = (.ready r, s'') ∧
            s''.moment = s.moment := by
        simp only [unaryOperation, Single.takeAll, hslot, habsorb]
        exact ⟨_, rfl, Session.moment_settle _⟩
      obtain ⟨s'', hturn, hmoment⟩ := hsecond
      have hrun := Operation.run_guard_of_second unaryOperation
        (.unsent (c.spec .test invocation o s)) hscope rfl rfl hturn hmoment
      refine ⟨r, _, by simp only [unary_eq, h.reachable, hrun]; rfl, by rintro _ ⟨⟩,
        fun _ => hechoed⟩

/-- What opening a stream gives: an open stream with the leading values, behind whose headers
every end carries the trailing ones and one is to come, or a refusal with both lists. -/
inductive OpenEchoed (e : Echo) (compressed : Bool) (asked : Reply → Prop) (s' : Session) :
    Except Status (CallId × Responses) → Prop
  | opened {id : CallId} {headers : Metadata} (hleading : e.LeadingIn headers)
      (hslot : (s'.slot id).Echoing e compressed asked) (hconcludes : s'.ConcludesAt id) :
      OpenEchoed e compressed asked s' (.ok (id, Responses.opened id headers))
  | refused {st : Status} (hcode : st.code ≠ .ok) (hboth : e.BothIn st.metadata) :
      OpenEchoed e compressed asked s' (.error st)

theorem openOperation_opened {s s' : Session} {id : CallId} {headers : Metadata}
    (h : s.take id = some (.opened headers, s')) :
    openOperation.turn (.sent id) s = (.ready (.ok (id, headers)), s') := by
  simp only [openOperation, h]

theorem openOperation_ended {s s' : Session} {id : CallId} {st : Status}
    (h : s.take id = some (.ended st, s')) :
    openOperation.turn (.sent id) s = (.ready (.error st), s'.abandon id) := by
  simp only [openOperation, h]

/-- **A stream is opened or refused in one round**, with the scope's own failure where the scope
has been triggered, and with the echoes where it has not. -/
theorem Client.openCall_echoed (h : Served c s server invocation)
    (hasked : ∀ m, server.Asked invocation m → asked m) (o : CallOptions) :
    ∃ r s', c.openCall .test invocation o s = (.answered r, s') ∧
      (∀ own, o.scope.failure? s.moment = some own → r = .error own) ∧
      (o.scope.failure? s.moment = none →
        OpenEchoed (Echo.ofMetadata o.metadata) c.target.compression asked s' r) := by
  cases hscope : o.scope.failure? s.moment with
  | some own =>
      have hrun := Operation.run_guard_of_triggered openOperation
        (.unsent (c.spec .test invocation o s)) hscope
      refine ⟨.error own, _, by simp only [openCall_eq, h.reachable, hrun]; rfl, ?_, nofun⟩
      intro own' hown
      cases hown
      rfl
  | none =>
      have hslot := s.slot_settle_begin (c.spec .test invocation o s)
      have hid := s.lt_length_begin (c.spec .test invocation o s)
      rw [← Session.length_settle] at hid
      have hmoment := Session.moment_settle (s.begin (c.spec .test invocation o s)).2
      cases (h.begun hasked o).advance s.moment.now with
      | @opened headers rest hwaiting hleading hrest =>
          have htake := Session.take_live hslot hwaiting
          have hturn := openOperation_opened htake
          have hrun := Operation.run_guard_of_second openOperation
            (.unsent (c.spec .test invocation o s)) hscope rfl rfl hturn hmoment
          refine ⟨_, _, by simp only [openCall_eq, h.reachable, hrun]; rfl, nofun, fun _ => ?_⟩
          refine .opened hleading ?_ ?_
          · rw [Session.slot_setSlot_self _ hid]
            exact .live hrest
          · have hconcludes := Call.concludes_advanceWithin (h.concludes o) s.moment.now
            exact Session.ConcludesAt.take ⟨hid, _, hslot, hconcludes _⟩ htake nofun
      | @refused st hwaiting hcode hboth =>
          have hturn := openOperation_ended (Session.take_live hslot hwaiting)
          have hrun := Operation.run_guard_of_second openOperation
            (.unsent (c.spec .test invocation o s)) hscope rfl rfl hturn hmoment
          exact ⟨.error st, _, by simp only [openCall_eq, h.reachable, hrun]; rfl, nofun,
            fun _ => .refused hcode hboth⟩

end Beginning

/-! ## An open stream -/

/-- How a stream with echoes may fail: with the failure of its scope, once that has been triggered,
with the trailing values, where the server has ended it, or because a message that was asked for
is too long for the client. -/
inductive FailureEchoed (e : Echo) (compressed : Bool) (asked : Reply → Prop) (scope : Scope)
    (m : Moment) : Status → Prop
  | triggered {st : Status} {since : Moment} (hbefore : since.Precedes m)
      (hown : scope.failure? since = some st) : FailureEchoed e compressed asked scope m st
  | ended {st : Status} (h : e.TrailingIn st.metadata) :
      FailureEchoed e compressed asked scope m st
  | overlong {st : Status} (h : Overlong compressed asked st) :
      FailureEchoed e compressed asked scope m st

/-- A stream of responses that reads a given call, with the leading values among its headers,
whatever has become of it. -/
inductive Responses.Echoing (e : Echo) (compressed : Bool) (asked : Reply → Prop) (scope : Scope)
    (id : CallId) (s : Session) : Responses → Prop
  | live {headers trailers : Metadata} (hleading : e.LeadingIn headers)
      (hid : id < s.slots.length) (hslot : (s.slot id).Echoing e compressed asked) :
      Responses.Echoing e compressed asked scope id s ⟨headers, trailers, .live id⟩
  | finished {headers trailers : Metadata} (hleading : e.LeadingIn headers)
      (htrailing : e.TrailingIn trailers) :
      Responses.Echoing e compressed asked scope id s ⟨headers, trailers, .finished⟩
  | failed {headers trailers : Metadata} {st : Status} (hleading : e.LeadingIn headers)
      (h : FailureEchoed e compressed asked scope s.moment st) :
      Responses.Echoing e compressed asked scope id s ⟨headers, trailers, .failed st⟩

section Stream

variable {scope : Scope} {s s' : Session} {id : CallId}

theorem FailureEchoed.mono {m m' : Moment} {st : Status}
    (h : FailureEchoed e compressed asked scope m st) (hlater : m.Precedes m') :
    FailureEchoed e compressed asked scope m' st := by
  cases h with
  | triggered hbefore hown => exact .triggered (hbefore.trans hlater) hown
  | ended h => exact .ended h
  | overlong h => exact .overlong h

/-- What happens to a session leaves a stream with echoes one, as long as nobody feeds its
call. -/
theorem Responses.Echoing.evolves {own feeds : CallId → Prop} {r : Responses}
    (h : r.Echoing e compressed asked scope id s) (hs : s.Evolves own feeds s')
    (hfeeds : ¬feeds id) : r.Echoing e compressed asked scope id s' := by
  cases h with
  | live hleading hid hslot =>
      exact .live hleading (Nat.lt_of_lt_of_le hid hs.length)
        (hslot.evolves hfeeds (hs.slot id hid))
  | finished hleading htrailing => exact .finished hleading htrailing
  | failed hleading h => exact .failed hleading (h.mono hs.moment)

theorem Responses.Echoing.leading {r : Responses} (h : r.Echoing e compressed asked scope id s) :
    e.LeadingIn r.headers := by
  cases h <;> assumption

/-- The events that are taken from a call with echoes carry them. -/
theorem Slot.Echoing.taken {event : Event} (h : (s.slot id).Echoing e compressed asked)
    (htake : s.take id = some (event, s')) : event.Echoing e compressed asked := by
  unfold Session.take at htake
  generalize hslot : s.slot id = slot at h htake
  cases h with
  | vacant => cases htake
  | @live c hc =>
      dsimp only at htake
      split at htake
      · rename_i first rest hwaiting
        cases htake
        exact hc.waiting event (by rw [hwaiting]; exact List.mem_cons_self ..)
      · cases htake

/-- A success is not of the client's own making. -/
theorem Event.Echoing.trailing {st : Status} (h : Event.Echoing e compressed asked (.ended st))
    (hcode : st.code = .ok) : e.TrailingIn st.metadata := by
  cases h with
  | ended h => exact h
  | overlong h => cases h; cases hcode

theorem Event.Echoing.failure {st : Status} (h : Event.Echoing e compressed asked (.ended st))
    (m : Moment) : FailureEchoed e compressed asked scope m st := by
  cases h with
  | ended h => exact .ended h
  | overlong h => exact .overlong h

/-- What comes next on a call with echoes: its failure and its end carry them. -/
theorem nextOperation_echoed {r : Except Status Received} (h : (s.slot id).Echoing e compressed asked)
    (hturn : (nextOperation id).turn () s = (.ready r, s')) :
    (∀ st, r = .error st → Event.Echoing e compressed asked (.ended st)) ∧
      ∀ trailers, r = .ok (.finished trailers) → e.TrailingIn trailers := by
  simp only [nextOperation] at hturn
  rcases htake : s.take id with _ | ⟨headers | reply | status, s₁⟩ <;> rw [htake] at hturn
  · cases hturn
  · cases hturn
  · cases hturn
    exact ⟨by rintro _ ⟨⟩, by rintro _ ⟨⟩⟩
  · have hended := h.taken htake
    by_cases hcode : status.code = .ok
    · simp only [hcode, if_true] at hturn
      cases hturn
      refine ⟨by rintro _ ⟨⟩, ?_⟩
      intro trailers htrailers
      cases htrailers
      exact hended.trailing hcode
    · simp only [hcode, if_false] at hturn
      cases hturn
      refine ⟨?_, by rintro _ ⟨⟩⟩
      intro st hst
      cases hst
      exact hended

/-- How a run of the next operation in a scope ends: the failure or the end that it gives has
come from a call with echoes, or from the scope. -/
theorem run_next_echoed (h : (s.slot id).Echoing e compressed asked) (hid : id < s.slots.length)
    {r : Except Status Received}
    (hrun : s.run (scope.guard (nextOperation id)) (.fresh ()) = (.answered r, s')) :
    (∀ st, r = .error st → FailureEchoed e compressed asked scope s'.moment st) ∧
      ∀ trailers, r = .ok (.finished trailers) → e.TrailingIn trailers := by
  have htame : (nextOperation id).Tame (fun _ => True) (fun _ => False) fun _ => True :=
    nextOperation_tame trivial
  obtain ⟨beats, hplay⟩ := (scope.guard (nextOperation id)).run_answered none hrun
  obtain ⟨before, rest, g, w₁, _, hbefore, hturn⟩ := Operation.play_ready_iff.mp hplay
  -- The call is as it was when the run began, or has gone on since.
  have hevolves :=
    ((htame.guard scope).play (.fresh ()) s trivial (fun _ _ => trivial) before).1
  rw [hbefore] at hevolves
  have hslot := h.evolves not_false (hevolves.evolves.slot id hid)
  constructor
  · rintro st rfl
    rcases Scope.guard_turn_error scope (nextOperation id) hturn with ⟨hown, _⟩ | ⟨own, hown, rfl⟩
    · exact .triggered (.refl _) hown
    · have hended : FailureEchoed e compressed asked scope s'.moment own :=
        ((nextOperation_echoed hslot hown).1 own rfl).failure s'.moment
      unfold Scope.overrule
      split
      · rename_i st hst
        split
        · exact hended
        · exact .triggered (.refl _) hst
      · exact hended
  · rintro trailers rfl
    obtain ⟨_, hok⟩ := Scope.guard_turn_ok scope (nextOperation id) hturn
    exact (nextOperation_echoed hslot hok).2 trailers rfl

/-- **What a client receives of a stream with echoes.**  A failure is of one of the three kinds,
the end has the trailing values among its trailers, and the stream remains one with echoes. -/
theorem Responses.receive_echoed {r : Responses} (h : r.Echoing e compressed asked scope id s) :
    (r.receive scope s).2.1.Echoing e compressed asked scope id (r.receive scope s).2.2 ∧
      (∀ st, (r.receive scope s).1 = .answered (.error st) →
        FailureEchoed e compressed asked scope (r.receive scope s).2.2.moment st) ∧
      ((r.receive scope s).1 = .answered (.ok none) →
        e.TrailingIn (r.receive scope s).2.1.trailers) := by
  have hsteps : s.Steps (fun _ => True) (fun _ => False) (r.receive scope s).2.2 :=
    r.steps_receive scope (fun _ _ => trivial) fun _ _ => trivial
  have hs := hsteps.evolves
  rcases hreceive : r.receive scope s with ⟨answer, r', s'⟩
  rw [hreceive] at hs
  cases h with
  | finished hleading htrailing =>
      cases hreceive
      exact ⟨.finished hleading htrailing, by rintro _ ⟨⟩, fun _ => htrailing⟩
  | @failed _ _ st hleading h =>
      cases hreceive
      refine ⟨.failed hleading h, ?_, by rintro ⟨⟩⟩
      intro st' hst
      cases hst
      exact h
  | @live headers trailers hleading hid hslot =>
      have hstays : ∀ trailers, Responses.Echoing e compressed asked scope id s'
          ⟨headers, trailers, .live id⟩ :=
        fun _ => (Responses.Echoing.live hleading hid hslot).evolves hs not_false
      simp only [receive] at hreceive
      rcases hend : s.run (scope.guard (nextOperation id)) (.fresh ()) with
        ⟨(st | reply | trailers') | _, s₁⟩ <;> rw [hend] at hreceive
      · have hfailure := (run_next_echoed hslot hid hend).1 st rfl
        cases hreceive
        refine ⟨.failed hleading hfailure, ?_, by rintro ⟨⟩⟩
        intro st' hst
        cases hst
        exact hfailure
      · cases hreceive
        exact ⟨hstays _, by rintro _ ⟨⟩, by rintro ⟨⟩⟩
      · have htrailing := (run_next_echoed hslot hid hend).2 trailers' rfl
        cases hscope : scope.failure? s₁.moment with
        | some own =>
            have htriggered : FailureEchoed e compressed asked scope s₁.moment own :=
              .triggered (.refl _) hscope
            simp only [Scope.check, hscope] at hreceive
            cases hreceive
            refine ⟨.failed hleading htriggered, ?_, by rintro ⟨⟩⟩
            intro st hst
            cases hst
            exact htriggered
        | none =>
            simp only [Scope.check, hscope] at hreceive
            cases hreceive
            exact ⟨.finished hleading htrailing, by rintro _ ⟨⟩, fun _ => htrailing⟩
      · cases hreceive
        exact ⟨hstays _, by rintro _ ⟨⟩, by rintro ⟨⟩⟩

/-! ### Feeding the call -/

/-- A request that asks for nothing else changes nothing about the echoes of a call, whichever call
it is sent to. -/
theorem Slot.Echoing.sent {other : CallId} {q : Request} {b : Bool}
    (h : (s.slot id).Echoing e compressed asked) (hq : ∀ m, q.Asks m → asked m)
    (hsent : Sent other q s b s') : (s'.slot id).Echoing e compressed asked := by
  have hset : ∀ slot, (other = id → slot.Echoing e compressed asked) →
      ((s.setSlot other slot).slot id).Echoing e compressed asked := by
    intro slot hslot
    by_cases hsame : other = id
    · by_cases hid : id < s.slots.length
      · rw [hsame, Session.slot_setSlot_self _ hid]
        exact hslot hsame
      · have hlength : (s.setSlot other slot).slots.length ≤ id :=
          Nat.le_trans (Nat.le_of_eq List.length_set) (Nat.not_lt.mp hid)
        rw [Session.slot_of_length_le hlength]
        exact .vacant
    · rw [Session.slot_setSlot_of_ne s _ hsame]
      exact h
  cases hsent with
  | lost => exact h
  | unread => exact h
  | queued hqueued =>
      refine hset _ ?_
      rintro rfl
      rw [hqueued] at h
      cases h
  | pushed hlive =>
      refine hset _ ?_
      rintro rfl
      rw [hlive] at h
      exact h.push hq

theorem Slot.Echoing.closed (h : (s.slot id).Echoing e compressed asked) (other : CallId) :
    ((s.close other).slot id).Echoing e compressed asked := by
  by_cases hsame : other = id
  · subst hsame
    generalize hslot : s.slot other = slot at h
    cases h with
    | vacant =>
        rw [show s.close other = s by simp only [Session.close, hslot], hslot]
        exact .vacant
    | live hc =>
        rw [Session.slot_close_live hslot]
        exact (Slot.Echoing.live hc).close
  · unfold Session.close
    split
    · rw [Session.slot_setSlot_of_ne s _ hsame]
      exact h
    · rw [Session.slot_setSlot_of_ne s _ hsame]
      exact h
    · exact h

theorem Responses.Echoing.sent {r : Responses} {other : CallId} {q : Request} {b : Bool}
    (h : r.Echoing e compressed asked scope id s) (hq : ∀ m, q.Asks m → asked m)
    (hsent : Sent other q s b s') : r.Echoing e compressed asked scope id s' := by
  cases h with
  | live hleading hid hslot =>
      exact .live hleading (hsent.length.symm ▸ hid) (hslot.sent hq hsent)
  | finished hleading htrailing => exact .finished hleading htrailing
  | failed hleading h => exact .failed hleading (by rw [hsent.moment]; exact h)

/-- Sending what asks for nothing else leaves a stream with echoes one. -/
theorem BidiStream.send_echoed {st : BidiStream}
    (h : st.responses.Echoing e compressed asked st.scope id s) {q : Request}
    (hq : ∀ m, q.Asks m → asked m) :
    (st.send q s).2.1.scope = st.scope ∧
      (st.send q s).2.1.responses.Echoing e compressed asked st.scope id (st.send q s).2.2 := by
  cases hsender : st.sender with
  | none =>
      rw [send_of_closed hsender]
      exact ⟨rfl, h⟩
  | some other =>
      cases hscope : st.scope.failure? s.moment with
      | none =>
          obtain ⟨b, s', hsend, hsent⟩ := send_of_untriggered hsender hscope q
          rw [hsend]
          have hsettles : s.Evolves (fun _ => True) (fun _ => False) s.settle := s.evolves_settle
          have hsettled : st.responses.Echoing e compressed asked st.scope id s.settle :=
            h.evolves hsettles not_false
          exact ⟨rfl, hsent.elim (h.sent hq) (hsettled.sent hq)⟩
      | some own =>
          rw [send_of_triggered hsender hscope]
          refine ⟨rfl, .failed h.leading (.triggered ?_ hscope)⟩
          rw [Responses.moment_drop]
          exact .refl _

theorem BidiStream.closeSend_echoed {st : BidiStream}
    (h : st.responses.Echoing e compressed asked st.scope id s) :
    st.responses.Echoing e compressed asked st.scope id (st.closeSend s).2 := by
  unfold closeSend
  split
  · exact h
  · rename_i other hsender
    have hsteps : s.Steps (fun _ => True) (fun _ => True) (s.close other) := s.steps_close trivial
    have hs := hsteps.evolves
    generalize st.responses = r at h
    cases h with
    | live hleading hid hslot =>
        exact .live hleading (Nat.lt_of_lt_of_le hid hs.length) (hslot.closed other)
    | finished hleading htrailing => exact .finished hleading htrailing
    | failed hleading h => exact .failed hleading (h.mono hs.moment)

end Stream

/-! ## Histories -/

/-- A stream of a client whose responses, where it has any, are those of a stream with echoes that
reads a given call. -/
def Handle.Echoing (e : Echo) (compressed : Bool) (asked : Reply → Prop) (scope : Scope)
    (id : CallId) (handle : Handle) (s : Session) : Prop :=
  ∀ r scope', handle.responses? = some (r, scope') →
    scope' = scope ∧ r.Echoing e compressed asked scope id s

/-- **A stream with echoes stays one, whatever its client does** that asks for nothing else. -/
theorem Handle.kept_echoing (id : CallId) (scope : Scope) {sent : Request → Prop}
    (hsent : ∀ q, sent q → ∀ m, q.Asks m → asked m) :
    Handle.Kept id sent (Handle.Echoing e compressed asked scope id) where
  evolves h hs r scope' hresponses :=
    ⟨(h r scope' hresponses).1, (h r scope' hresponses).2.evolves hs fun hne => hne rfl⟩
  gone _ := nofun
  receive h hresponses r' scope' hafter := by
    rw [Handle.responses?_withResponses hresponses] at hafter
    cases hafter
    obtain ⟨rfl, hr⟩ := h _ _ hresponses
    exact ⟨rfl, (Responses.receive_echoed hr).1⟩
  send hq h r' scope' hafter := by
    obtain ⟨rfl, hr⟩ := h _ _ rfl
    obtain ⟨hsame, hechoing⟩ := BidiStream.send_echoed hr (hsent _ hq)
    cases hafter
    exact ⟨hsame, hechoing⟩
  closeSend {st s} h r' scope' hafter := by
    obtain ⟨hresponses, hscope⟩ := st.responses_closeSend s
    obtain ⟨rfl, hr⟩ := h _ _ rfl
    cases hafter
    rw [hresponses, hscope]
    exact ⟨rfl, BidiStream.closeSend_echoed hr⟩
  clientSend _ _ := nofun

/-- The messages that have been asked for on a stream of a number: by the request of its call, and
by the requests that a history has sent on it since. -/
inductive AskedIn (server : ReferenceServer) (invocation : Invocation) (n : Nat)
    (actions : List ClientAction) : Reply → Prop
  | opening {m : Reply} (h : server.Asked invocation m) : AskedIn server invocation n actions m
  | sent {q : Request} {m : Reply} (hsent : .send n q ∈ actions) (h : q.Asks m) :
      AskedIn server invocation n actions m

namespace Conversation

/-- The server has sent everything of the call that a stream reads, or the client has read the
stream to its end. -/
def AllSent (k : Conversation) (n : Nat) : Prop :=
  ∃ handle r scope, k.stream? n = some handle ∧ handle.responses? = some (r, scope) ∧
    ∀ id c, r.state = .live id → k.session.slot id = .live c → c.peer = .replying []

end Conversation

/-! ## From the attached values to the observed ones -/

/-- What a client sees of its stream of a number, whatever it has done since the stream was
opened: the headers have the leading values, a failure is of one of the three kinds, where the
stream is found at its end the trailers have the trailing values, and once the server has sent
everything a client that reads on, through this stream only, gets to a failure or the end. -/
structure StreamSeen (server : ReferenceServer) (invocation : Invocation) (e : Echo)
    (compressed : Bool) (scope : Scope) (n : Nat) (k : Conversation) : Prop where
  headers : ∀ actions headers trailers,
    ((k.performed actions).perform (.metadata n)).1 = .metadata headers trailers →
      e.LeadingIn headers
  failure : ∀ actions st k',
    (k.performed actions).perform (.receive n) = (.received (.error st), k') →
      FailureEchoed e compressed (AskedIn server invocation n actions) scope
        k'.session.moment st
  ending : ∀ actions k',
    (k.performed actions).perform (.receive n) = (.received (.ok none), k') →
      ∃ headers trailers, (k'.perform (.metadata n)).1 = .metadata headers trailers ∧
        e.LeadingIn headers ∧ e.TrailingIn trailers
  reached : ∀ actions, (k.performed actions).AllSent n →
    scope.failure? (k.performed actions).session.moment = none →
      ∃ m answer k', ((k.performed actions).performed (List.replicate m (.receive n))).perform
        (.receive n) = (.received answer, k') ∧ ∀ q, answer ≠ .ok (some q)

namespace Conversation

variable {scope : Scope} {n : Nat} {id : CallId} {k k' : Conversation}

theorem answered_of_toOption {α : Type} {answer : Outcome α} {a : α}
    (h : answer.toOption = some a) : answer = .answered a := by
  cases answer with
  | unfinished => cases h
  | answered b =>
      cases h
      rfl

/-- What a client receives of a stream with echoes, and finds afterwards. -/
theorem received_echoed (h : k.HasAt id (Handle.Echoing e compressed asked scope id) n)
    {answer : Except Status (Option Reply)} (hreceive : k.receive n = (some answer, k')) :
    (∀ st, answer = .error st →
      FailureEchoed e compressed asked scope k'.session.moment st) ∧
      (answer = .ok none → ∃ headers trailers,
        (k'.perform (.metadata n)).1 = .metadata headers trailers ∧ e.LeadingIn headers ∧
          e.TrailingIn trailers) := by
  rcases k.deaf_or_responses n with hdeaf | ⟨handle, r, scope', hstream, hresponses⟩
  · rw [receive_of_deaf hdeaf] at hreceive
    cases hreceive
  · obtain ⟨rfl, hr⟩ := h.found hstream r scope' hresponses
    obtain ⟨hr', hfailure, hend⟩ := Responses.receive_echoed hr
    rw [receive_eq hstream hresponses] at hreceive
    obtain ⟨houtcome, rfl⟩ := Prod.mk.inj hreceive
    have hanswered := answered_of_toOption houtcome
    refine ⟨fun st hst => hfailure st (by rw [hanswered, hst]), fun hnone => ?_⟩
    refine ⟨_, _, ?_, hr'.leading, hend (by rw [hanswered, hnone])⟩
    rw [metadata_eq (stream?_setStream hstream _ _)
      (Handle.responses?_withResponses hresponses _)]

/-- Once the server has sent everything of a stream with echoes, a client that reads on gets to
its end. -/
theorem reached_of_allSent (hechoing : k.HasAt id (Handle.Echoing e compressed asked scope id) n)
    (hunread : k.HasAt id (Handle.Unread id) n) (hsent : k.AllSent n)
    (hscope : scope.failure? k.session.moment = none) :
    ∃ m answer k', (k.performed (List.replicate m (.receive n))).receive n = (some answer, k') ∧
      ∀ q, answer ≠ .ok (some q) := by
  obtain ⟨handle, r, scope', hstream, hresponses, hsent⟩ := hsent
  obtain ⟨rfl, hr⟩ := hechoing.found hstream r scope' hresponses
  have hconcludes := hunread.found hstream r scope' hresponses
  cases hr with
  | finished hleading htrailing =>
      exact ⟨0, .ok none, _, receive_eq hstream hresponses, nofun⟩
  | @failed _ _ st hleading hst =>
      exact ⟨0, .error st, _, receive_eq hstream hresponses, nofun⟩
  | live hleading hid hslot =>
      obtain ⟨-, -, c, hcall, hc⟩ := hconcludes id rfl
      rw [hcall] at hslot
      cases hslot with
      | live hslot =>
          have hended : ∃ st, .ended st ∈ c.waiting := by
            refine hc.resolve_right fun hpeer => ?_
            rw [hsent id c rfl hcall] at hpeer
            obtain ⟨part, hpart, _⟩ := hpeer
            cases hpart
          refine end_received hstream hresponses rfl hid hcall (fun headers hopened => ?_)
            hended hscope
          cases hslot.waiting _ hopened

/-- **What is seen of a stream with echoes**, from when it was opened. -/
theorem seen_of_echoing {server : ReferenceServer} {invocation : Invocation} {handle : Handle}
    {r : Responses} (horderly : k.Orderly) (hstream : k.stream? n = some handle)
    (hresponses : handle.responses? = some (r, scope)) (hlive : r.state = .live id)
    (hr : ∀ asked, (∀ m, server.Asked invocation m → asked m) →
      r.Echoing e compressed asked scope id k.session)
    (hconcludes : k.session.ConcludesAt id) :
    StreamSeen server invocation e compressed scope n k := by
  have hreserved : k.Reserved id n :=
    horderly.reserved hstream (Or.inl ((Handle.calls_iff_live hresponses).mpr hlive))
  have hechoing : ∀ actions, (k.performed actions).HasAt id
      (Handle.Echoing e compressed (AskedIn server invocation n actions) scope id) n := by
    intro actions
    have hopened : k.HasAt id
        (Handle.Echoing e compressed (AskedIn server invocation n actions) scope id) n := by
      refine ⟨hreserved, handle, hstream, ?_⟩
      intro r' scope' hsame
      rw [hresponses] at hsame
      cases hsame
      exact ⟨rfl, hr _ fun m => .opening⟩
    exact hopened.performed (Handle.kept_echoing id scope fun q hq m => .sent hq) fun _ hq => hq
  refine ⟨?_, ?_, ?_, ?_⟩
  · intro actions headers trailers hanswer
    rcases (k.performed actions).deaf_or_responses n with
      hdeaf | ⟨handle', r', scope', hstream', hresponses'⟩
    · rw [metadata_of_deaf hdeaf] at hanswer
      cases hanswer
    · rw [metadata_eq hstream' hresponses'] at hanswer
      cases hanswer
      exact ((hechoing actions).found hstream' r' scope' hresponses').2.leading
  · intro actions st k' hanswer
    exact (received_echoed (hechoing actions) (perform_receive_iff.mp hanswer)).1 st rfl
  · intro actions k' hanswer
    exact (received_echoed (hechoing actions) (perform_receive_iff.mp hanswer)).2 rfl
  · intro actions hsent hscope
    have hunread : k.HasAt id (Handle.Unread id) n := by
      refine ⟨hreserved, handle, hstream, ?_⟩
      intro r' scope' hsame id' hlive'
      rw [hresponses] at hsame
      cases hsame
      rw [hlive] at hlive'
      cases hlive'
      exact ⟨rfl, hconcludes⟩
    obtain ⟨m, answer, k', hreceive, hanswer⟩ := reached_of_allSent (hechoing actions)
      (hunread.performed (Handle.kept_unread id fun _ => True) fun _ _ => trivial) hsent hscope
    exact ⟨m, answer, k', perform_receive_iff.mpr hreceive, hanswer⟩

end Conversation

/-- What the attempt to open a stream of a kind gives: a stream whose echoes its client sees
from then on, in every conversation in which no two streams have to do with the same call, or a
refusal with both lists. -/
inductive StreamEchoed {σ : Type} (handle : σ → Handle) (server : ReferenceServer)
    (invocation : Invocation) (e : Echo) (compressed : Bool) (scope : Scope) (s' : Session) :
    Except Status σ → Prop
  | opened {st : σ} (h : ∀ k n, k.Orderly → k.session = s' → k.stream? n = some (handle st) →
      StreamSeen server invocation e compressed scope n k) :
      StreamEchoed handle server invocation e compressed scope s' (.ok st)
  | refused {st : Status} (hcode : st.code ≠ .ok) (hboth : e.BothIn st.metadata) :
      StreamEchoed handle server invocation e compressed scope s' (.error st)

section Streams

variable {c : Client} {s s' : Session} {server : ReferenceServer} {invocation : Invocation}
  {scope : Scope}

/-- A call that has been opened with echoes, whatever more is asked for, is a stream whose client
sees them, of whatever kind. -/
theorem OpenEchoed.stream {r : Except Status (CallId × Responses)}
    (h : ∀ asked, (∀ m, server.Asked invocation m → asked m) →
      OpenEchoed e compressed asked s' r) {σ : Type} (handle : σ → Handle)
    (make : CallId × Responses → σ)
    (hresponses : ∀ found, (handle (make found)).responses? = some (found.2, scope)) :
    StreamEchoed handle server invocation e compressed scope s' (r.map make) := by
  cases h _ fun _ => id with
  | refused hcode hboth => exact .refused hcode hboth
  | @opened id headers hleading _ hconcludes =>
      refine .opened ?_
      rintro k n horderly rfl hstream
      refine Conversation.seen_of_echoing horderly hstream (hresponses _) rfl ?_ hconcludes
      intro asked hasked
      cases h asked hasked with
      | opened _ hslot _ => exact .live hleading hconcludes.1 hslot

/-- Opening a stream gives the same, whatever is asked for later. -/
theorem Client.openCall_stream (h : Served c s server invocation) (o : CallOptions) {σ : Type}
    (handle : σ → Handle) (make : CallId × Responses → σ)
    (hresponses : ∀ found, (handle (make found)).responses? = some (found.2, o.scope)) :
    ∃ r s', c.openCall .test invocation o s = (.answered r, s') ∧
      (∀ own, o.scope.failure? s.moment = some own → r.map make = .error own) ∧
      (o.scope.failure? s.moment = none →
        StreamEchoed handle server invocation (Echo.ofMetadata o.metadata) c.target.compression
          o.scope s' (r.map make)) := by
  obtain ⟨r, s', hopen, htriggered, -⟩ := c.openCall_echoed h (fun _ => id) o
  refine ⟨r, s', hopen, ?_, fun hnone => ?_⟩
  · intro own hown
    rw [htriggered own hown]
    rfl
  · refine OpenEchoed.stream ?_ handle make hresponses
    intro asked hasked
    obtain ⟨r', s'', hopen', -, hechoed⟩ := c.openCall_echoed h hasked o
    cases hopen.symm.trans hopen'
    exact hechoed hnone

theorem Client.serverStreaming_echoed (h : Served c s server invocation) (o : CallOptions) :
    ∃ r s', c.serverStreaming .test invocation o s = (.answered r, s') ∧
      (∀ own, o.scope.failure? s.moment = some own → r = .error own) ∧
      (o.scope.failure? s.moment = none →
        StreamEchoed Handle.server server invocation (Echo.ofMetadata o.metadata)
          c.target.compression o.scope s' r) := by
  obtain ⟨r, s', hopen, hechoed⟩ := c.openCall_stream h o Handle.server
    (fun found => ⟨found.2, o.scope⟩) fun _ => rfl
  refine ⟨_, s', ?_, hechoed⟩
  rw [serverStreaming, hopen]
  rcases r with st | ⟨id, responses⟩ <;> rfl

theorem Client.bidiStreaming_echoed (h : Served c s server invocation) (o : CallOptions) :
    ∃ r s', c.bidiStreaming invocation o s = (.answered r, s') ∧
      (∀ own, o.scope.failure? s.moment = some own → r = .error own) ∧
      (o.scope.failure? s.moment = none →
        StreamEchoed Handle.bidi server invocation (Echo.ofMetadata o.metadata)
          c.target.compression o.scope s' r) := by
  obtain ⟨r, s', hopen, hechoed⟩ := c.openCall_stream h o Handle.bidi
    (fun found => ⟨some found.1, found.2, o.scope⟩) fun _ => rfl
  refine ⟨_, s', ?_, hechoed⟩
  rw [bidiStreaming, hopen]
  rcases r with st | ⟨id, responses⟩ <;> rfl

end Streams

/-- **Echoes survive the whole round trip.**  A client that attaches texts and binary values to
a call, in any order and behind any other metadata, finds them again, each list in its order and
each value once; a raw trailing value that is no base64 is left out and changes nothing else.  A
call with a single response gives the texts among its headers and the binary values among its
trailers, or both among the metadata of its failure.  A stream is refused with both among the
metadata of the failure, or is opened with the texts among its headers; from then on its
client may do anything, and where it finds the end of the stream or a failure of the server's
making the binary values are there, which it does when it reads on after the server has sent
everything.  A scope that has been triggered fails a call with its own failure, and a client
refuses by itself a message that it has asked for and that is too long. -/
theorem echoes_survive_the_round_trip {c : Client} {s : Session} {server : ReferenceServer}
    {invocation : Invocation} (h : Served c s server invocation) (o : CallOptions) :
    (∀ base values, Echo.ofMetadata base.metadata = ⟨[], []⟩ →
      CallOptions.attachAll base values = .ok o →
        Echo.ofMetadata o.metadata = ⟨Attachment.texts values, Attachment.binaries values⟩) ∧
    (∀ before v after, o.metadata = ⟨before ++ (Agreed.trailingKey, v) :: after⟩ →
      v.binary? = none → Echo.ofMetadata o.metadata = Echo.ofMetadata ⟨before ++ after⟩) ∧
    (∀ md, (Echo.ofMetadata o.metadata).TrailingIn md →
      (md.getAll Agreed.trailingKey).map HeaderValue.binary? =
        (Echo.ofMetadata o.metadata).trailing.map some) ∧
    (invocation.shape = .unary →
      ∃ r s', c.unary .test invocation o s = (.answered r, s') ∧
        (∀ own, o.scope.failure? s.moment = some own → r = .error own) ∧
        (o.scope.failure? s.moment = none →
          SingleEchoed (Echo.ofMetadata o.metadata) c.target.compression
            (server.Asked invocation) r)) ∧
    (∃ r s', c.serverStreaming .test invocation o s = (.answered r, s') ∧
      (∀ own, o.scope.failure? s.moment = some own → r = .error own) ∧
      (o.scope.failure? s.moment = none →
        StreamEchoed Handle.server server invocation (Echo.ofMetadata o.metadata)
          c.target.compression o.scope s' r)) ∧
    (∃ r s', c.bidiStreaming invocation o s = (.answered r, s') ∧
      (∀ own, o.scope.failure? s.moment = some own → r = .error own) ∧
      (o.scope.failure? s.moment = none →
        StreamEchoed Handle.bidi server invocation (Echo.ofMetadata o.metadata)
          c.target.compression o.scope s' r)) := by
  refine ⟨?_, ?_, fun md htrailing => htrailing.decoded, fun hshape => c.unary_echoed h hshape o,
    c.serverStreaming_echoed h o, c.bidiStreaming_echoed h o⟩
  · intro base values hfresh hattach
    rw [(Echo.ofMetadata_attachAll hattach).1, hfresh, List.nil_append, List.nil_append]
  · intro before v after hmetadata hv
    rw [hmetadata]
    exact Echo.ofMetadata_of_undecodable before after hv

namespace EchoSample

def server : ReferenceServer := ⟨"server", "localhost"⟩

/-- A client of a reference server to which there is a connection. -/
def client : Client := ⟨{}, true⟩

def session : Session := .start (.reference server)

/-- Two texts and a binary value. -/
def options : CallOptions :=
  { metadata := ⟨[(Agreed.leadingKey, .ofText "first"), (Agreed.trailingKey, .ofBinary [1, 2, 3]),
      (Agreed.leadingKey, .ofText "second")]⟩
    scope := ⟨none, 0⟩ }

/-- The conversation in which the client has opened a stream and closed its sending side. -/
def closed : Conversation :=
  match client.bidiStreaming .fullDuplexCall options session with
  | (.answered (.ok st), s) => Conversation.performed ⟨client, s, [], [.bidi st]⟩ [.closeSend 0]
  | (_, s) => ⟨client, s, [], []⟩

end EchoSample

open EchoSample in
/-- The sample call is opened with its echoes, the server comes to send everything, and the client
finds the echoes at the end. -/
theorem sampleEchoes_survive :
    Served client session server .fullDuplexCall ∧
      (∃ r s', client.bidiStreaming .fullDuplexCall options session = (.answered r, s') ∧
        StreamEchoed Handle.bidi server .fullDuplexCall
          ⟨[.ofText "first", .ofText "second"], [[1, 2, 3]]⟩ false options.scope s' r) ∧
      (closed.performed [.reconnect]).AllSent 0 ∧
      ∃ k, closed.perform (.receive 0) = (.received (.ok none), k) ∧
        (k.perform (.metadata 0)).1 = .metadata
          ⟨[(Agreed.leadingKey, .ofText "first"), (Agreed.leadingKey, .ofText "second")]⟩
          ⟨[(Agreed.trailingKey, .ofBinary [1, 2, 3])]⟩ := by
  have hserved : Served client session server .fullDuplexCall :=
    ⟨rfl, rfl, trivial, Or.inr (Nat.zero_le _)⟩
  obtain ⟨hattached, _, _, _, _, r, s', hcall, _, hechoed⟩ :=
    echoes_survive_the_round_trip hserved options
  have hvalues := hattached { scope := ⟨none, 0⟩ }
    [.text "first", .binary [1, 2, 3], .text "second"] rfl rfl
  have hseen := hechoed rfl
  rw [hvalues] at hseen
  refine ⟨hserved, ⟨r, s', hcall, hseen⟩, ⟨_, _, _, rfl, rfl, ?_⟩, _, rfl, rfl⟩
  intro id c hlive hslot
  cases hlive
  cases hslot
  rfl

end RpcConformance
