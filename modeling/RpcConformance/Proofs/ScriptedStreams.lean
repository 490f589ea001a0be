import RpcConformance.Proofs.ForetoldStreams
import RpcConformance.Proofs.SingleResults

/-!
# Streams of scripted servers

A scripted server that has all of its client's requests sends the rest of its response, and nothing
but its own pauses keeps it from that.  A client that waits for the next event of such a call gets
it, after a jump of the clock for each pause on the way.  Every jump leaves the servers less to do,
which bounds the wait, and it gives no signal and creates no scope, so a scope that nothing has
triggered stays so.

## Main results

* `Operation.Takes.run` — a wait for the next event of a call ends with it.
* `Client.serverStreaming_opened`, `Client.serverStreaming_refused` — how a stream begins.
* `ServerStream.receive_message`, `ServerStream.receive_ended` — what it gives, one after another.
* `Session.Gives.length_le` — the bound on the messages that a session can still give holds.
-/

namespace RpcConformance

open ReadResponse

/-! ## What a call still gives -/

/-- These are the events that the client of a call has not taken, and the server does not wait for
anything of the client's. -/
structure Call.Gives (events : List Event) (c : Call) : Prop where
  outstanding : c.outstanding = events
  inputOver : c.peer.InputOver

/-- All calls have scripted servers, and one of them still gives some events. -/
structure Session.Gives (id : CallId) (events : List Event) (s : Session) : Prop where
  scripted : s.Scripted
  call : ∃ c, s.slot id = .live c ∧ c.Gives events

/-- The client has taken all that has come of a call, and its server waits for a timer. -/
structure Session.Lulled (id : CallId) (events : List Event) (s : Session) : Prop where
  gives : s.Gives id events
  begun : s.Begun
  call : ∃ c due, s.slot id = .live c ∧ c.waiting = [] ∧ ∀ now, c.peer.alarm now = some due

namespace Session

variable {s s' : Session} {id : CallId} {c : Call} {e : Event} {events : List Event}

/-- An event that has come is taken. -/
theorem Gives.take (h : s.Gives id (e :: events)) (hslot : s.slot id = .live c)
    (hwaiting : c.waiting ≠ []) :
    ∃ s', s.take id = some (e, s') ∧ s'.Gives id events ∧ s.Kept s' ∧ s'.moment = s.moment := by
  obtain ⟨c', hslot', houtstanding, hover⟩ := h.call
  rw [hslot] at hslot'
  cases hslot'
  obtain ⟨first, rest, hfirst⟩ := List.exists_cons_of_ne_nil hwaiting
  rw [Call.outstanding, hfirst] at houtstanding
  obtain ⟨rfl, hrest⟩ := List.cons.inj houtstanding
  have hpeer := h.scripted.live hslot
  have htaken := slot_setSlot_self (.live { c with waiting := rest }) (lt_length_of_live hslot)
  exact ⟨_, take_live hslot hfirst, ⟨h.scripted.setSlot hpeer, _, htaken, hrest, hover⟩,
    ⟨rfl, rfl, rfl⟩, rfl⟩

/-- **When the servers have gone on, the next event has come**, or the server waits for a timer. -/
theorem Gives.settle (h : s.Gives id (e :: events)) :
    (∃ s', s.settle.take id = some (e, s') ∧ s'.Gives id events ∧ s.Kept s' ∧
      s'.moment = s.moment) ∨ s.settle.Lulled id (e :: events) := by
  obtain ⟨c, hslot, houtstanding, hover⟩ := h.call
  have hadvanced := Call.advanced_advance (h.scripted.live hslot) s.moment.now
  obtain ⟨hover', hrest⟩ := hadvanced.inputOver hover
  have hslot' := slot_settle_live hslot
  have hsettled : s.settle.Gives id (e :: events) :=
    ⟨h.scripted.settle, _, hslot', hadvanced.outstanding.trans houtstanding, hover'⟩
  by_cases hwaiting : (c.advance s.moment.now).waiting = []
  · refine Or.inr ⟨hsettled, s.begun_settle, ?_⟩
    -- Events are left, and none of them has come, so the server has not sent all of its parts.
    have hparts : (c.advance s.moment.now).peer.parts ≠ [] := by
      intro hnil
      have hnone := hadvanced.outstanding.trans houtstanding
      rw [Call.outstanding, hwaiting, hnil] at hnone
      cases hnone
    obtain ⟨due, halarm⟩ := hrest.resolve_left hparts
    exact ⟨_, due, hslot', hwaiting, halarm⟩
  · obtain ⟨s', htake, hgives, hkept, hmoment⟩ := hsettled.take hslot' hwaiting
    exact Or.inl ⟨s', htake, hgives, s.kept_settle.trans hkept, hmoment.trans s.moment_settle⟩

/-- Time passes. -/
theorem Lulled.movedTo (h : s.Lulled id events) (t : Instant) : (s.movedTo t).Lulled id events :=
  ⟨⟨h.gives.scripted, h.gives.call⟩, h.begun, h.call⟩

theorem Lulled.take (h : s.Lulled id events) : s.take id = none := by
  obtain ⟨c, due, hslot, hwaiting, -⟩ := h.call
  exact take_of_nil hslot hwaiting

/-- A server whose timer has fired has less to do. -/
theorem Lulled.timers_lt (h : s.Lulled id events) {slot : Slot} {due t : Instant}
    (hmem : slot ∈ s.slots) (hdue : slotAlarm s.moment.now slot = some due)
    (hfired : Instant.fired due t = true) :
    Scheduler.timers (s.movedTo t).settle < Scheduler.timers s :=
  timers_settle_lt (h.movedTo t).gives.scripted (h.movedTo t).begun hmem hdue hfired

/-- Some server has set the earliest timer of all, and has less to do when it has fired. -/
theorem Lulled.alarm (h : s.Lulled id events) : ∃ due, Scheduler.alarm s = some due ∧
    Scheduler.timers (s.movedTo (s.moment.now.jumpTo due)).settle < Scheduler.timers s := by
  obtain ⟨c, due', hslot, -, halarm⟩ := h.call
  rcases s.alarm_cases with ⟨-, hnone⟩ | ⟨due, hsome, slot, hmem, hdue⟩
  · have hcall := hnone id
    rw [hslot] at hcall
    exact absurd ((halarm s.moment.now).symm.trans hcall) (Option.some_ne_none _)
  · exact ⟨due, hsome, h.timers_lt hmem hdue (Instant.fired_jumpTo _ _)⟩

end Session

/-! ## Waiting for the next event -/

section Takes

variable {σ α : Type} {op : Operation Session σ (Except Status α)} {id : CallId} {st st₀ : σ}
  {e : Event} {r : Except Status α} {left : Session → Session} {scope : Scope} {s s₁ : Session}
  {events : List Event}

/-- In this state the operation waits for the next event of a call, and ends with a result if that
is a certain one; `left` is what it then does to the session. -/
structure Operation.Takes (op : Operation Session σ (Except Status α)) (id : CallId) (st : σ)
    (e : Event) (r : Except Status α) (left : Session → Session) : Prop where
  waits : ∀ {s : Session}, s.take id = none → op.turn st s = (.waiting st, s)
  ends : ∀ {s s' : Session}, s.take id = some (e, s') → op.turn st s = (.ready r, left s')
  alarm : ∀ s, op.alarm st s = none
  moment : ∀ s, (left s).moment = s.moment

/-- A guard passes the wait on. -/
theorem Operation.Takes.guard_waits (hop : op.Takes id st e r left) (hidle : scope.Idle s)
    {g : Scope.Guarded σ} (hg : g.inner = st) (htake : s.take id = none) :
    (scope.guard op).turn g s = (.waiting (.racing st), s) := by
  rw [Operation.guard_turn_of_untriggered op hidle.untriggered, hg, hop.waits htake]
  rfl

/-- **A turn when the servers have gone on** ends with the event, or waits for a timer. -/
theorem Operation.Takes.turn_settle (hop : op.Takes id st e r left) (hidle : scope.Idle s)
    {g : Scope.Guarded σ} (hg : g.inner = st) (h : s.Gives id (e :: events)) :
    (∃ s', (scope.guard op).turn g s.settle = (.ready r, left s') ∧ s'.Gives id events ∧
      s.Kept s') ∨
    ((scope.guard op).turn g s.settle = (.waiting (.racing st), s.settle) ∧
      s.settle.Lulled id (e :: events)) := by
  have hsettled := hidle.kept s.kept_settle
  rcases h.settle with ⟨s', htake, hgives, hkept, hmoment⟩ | hlulled
  · refine Or.inl ⟨s', ?_, hgives, hkept⟩
    refine Operation.guard_turn_ready op hsettled.untriggered ?_
      (((hop.moment s').trans hmoment).trans s.moment_settle.symm)
    rw [hg]
    exact hop.ends htake
  · exact Or.inr ⟨hop.guard_waits hsettled hg hlulled.take, hlulled⟩

/-- **The wait ends with the event**, at the latest when all timers have fired. -/
theorem Operation.Takes.wait (hop : op.Takes id st e r left) {fuel : Nat} (hidle : scope.Idle s)
    (h : s.Lulled id (e :: events)) (hfuel : Scheduler.timers s < fuel) :
    ∃ s', (scope.guard op).wait none fuel (.racing st) s = (.answered r, left s') ∧
      s'.Gives id events ∧ s.Kept s' := by
  induction fuel generalizing s with
  | zero => exact absurd hfuel (Nat.not_lt_zero _)
  | succ fuel ih =>
      obtain ⟨due, hdue, hless⟩ := h.alarm
      have halarm : (scope.guard op).alarm (.racing st) s = none := by
        have hsignal : scope.isCancelled (Timeline.moment s) = false := hidle.unsignalled
        simp only [Scope.guard, hsignal, hidle.unlimited, hop.alarm]
        rfl
      have hjump : (scope.guard op).jump none (.racing st) s =
          (true, s.movedTo (s.moment.now.jumpTo due)) := by
        simp only [Operation.jump, halarm, hdue]
        rfl
      generalize hs₁ : s.movedTo (s.moment.now.jumpTo due) = s₁ at hjump hless
      have hkept₁ : s.Kept s₁ := hs₁ ▸ s.kept_movedTo _
      have hlulled₁ : s₁.Lulled id (e :: events) := hs₁ ▸ h.movedTo _
      have hidle₁ := hidle.kept hkept₁
      have hround : (scope.guard op).round none (.racing st) s₁ =
          (scope.guard op).turn (.racing st) s₁.settle := by
        simp only [Operation.round, hop.guard_waits hidle₁ (g := .racing st) rfl hlulled₁.take,
          Operation.isOver, Option.any_none]
        rfl
      rcases hop.turn_settle hidle₁ (g := .racing st) rfl hlulled₁.gives with
        ⟨s', hturn, hgives, hkept⟩ | ⟨hturn, hlulled⟩
      · refine ⟨s', ?_, hgives, hkept₁.trans hkept⟩
        simp only [Operation.wait, hjump, hround, hturn]
      · obtain ⟨s', hwait, hgives, hkept⟩ := ih (hidle₁.kept s₁.kept_settle) hlulled (by omega)
        refine ⟨s', ?_, hgives, (hkept₁.trans s₁.kept_settle).trans hkept⟩
        simp only [Operation.wait, hjump, hround, hturn, hwait]

/-- **A wait for the next event of a call ends with it**, whatever the first turn does before it
waits. -/
theorem Operation.Takes.run (hop : op.Takes id st e r left) (hidle : scope.Idle s)
    (hfirst : op.turn st₀ s = (.waiting st, s₁)) (hkept₁ : s.Kept s₁)
    (h : s₁.Gives id (e :: events)) :
    ∃ s', s.run (scope.guard op) (.fresh st₀) = (.answered r, left s') ∧ s'.Gives id events ∧
      s.Kept s' := by
  have hidle₁ := hidle.kept hkept₁
  have hbefore : (scope.guard op).turn (.fresh st₀) s = (.waiting (.racing st), s₁) := by
    rw [Operation.guard_turn_of_untriggered op hidle.untriggered]
    show scope.passOn (op.turn st₀ s) = _
    rw [hfirst]
    rfl
  have hround : (scope.guard op).round none (.fresh st₀) s =
      (scope.guard op).turn (.racing st) s₁.settle := by
    simp only [Operation.round, hbefore, Operation.isOver, Option.any_none]
    rfl
  rcases hop.turn_settle hidle₁ (g := .racing st) rfl h with
    ⟨s', hturn, hgives, hkept⟩ | ⟨hturn, hlulled⟩
  · refine ⟨s', ?_, hgives, hkept₁.trans hkept⟩
    simp only [Session.run, Operation.run, hround, hturn]
  · obtain ⟨s', hwait, hgives, hkept⟩ := hop.wait (hidle₁.kept s₁.kept_settle) hlulled
      (Nat.lt_add_of_pos_left (Nat.zero_lt_succ 1))
    refine ⟨s', ?_, hgives, (hkept₁.trans s₁.kept_settle).trans hkept⟩
    simp only [Session.run, Operation.run, hround, hturn, hwait]

/-- An operation that waits for the next event from the start takes one that has come at once. -/
theorem Operation.Takes.run_fresh (hop : op.Takes id st e r left) (hidle : scope.Idle s)
    (h : s.Gives id (e :: events)) :
    ∃ s', s.run (scope.guard op) (.fresh st) = (.answered r, left s') ∧ s'.Gives id events ∧
      s.Kept s' := by
  obtain ⟨c, hslot, hgives⟩ := h.call
  by_cases hwaiting : c.waiting = []
  · exact hop.run hidle (hop.waits (Session.take_of_nil hslot hwaiting)) (.refl s) h
  · obtain ⟨s', htake, hrest, hkept, hmoment⟩ := h.take hslot hwaiting
    exact ⟨s', Operation.run_guard_of_first op st hidle.untriggered (hop.ends htake)
      ((hop.moment s').trans hmoment), hrest, hkept⟩

end Takes

/-! ## Opening a stream -/

section Opening

theorem openOperation_takes_opened (id : CallId) (headers : Metadata) :
    openOperation.Takes id (.sent id) (.opened headers) (.ok (id, headers)) fun s => s where
  waits htake := by simp only [openOperation, htake]
  ends := openOperation_opened
  alarm _ := rfl
  moment _ := rfl

theorem openOperation_takes_ended (id : CallId) (st : Status) :
    openOperation.Takes id (.sent id) (.ended st) (.error st) (·.abandon id) where
  waits htake := by simp only [openOperation, htake]
  ends := openOperation_ended
  alarm _ := rfl
  moment _ := rfl

/-- The call begins with the first turn. -/
theorem openOperation_unsent (spec : CallSpec) (s : Session) :
    openOperation.turn (.unsent spec) s = (.waiting (.sent s.slots.length), (s.begin spec).2) :=
  rfl

variable {c : Client} {service : ServiceName} {invocation : Invocation} {o : CallOptions}
  {s : Session} {methods : List (String × List Behaviour)}

/-- A new call gives the whole response of its server. -/
theorem Session.gives_begin (hserver : s.server = .scripted methods) (hs : s.Scripted)
    {spec : CallSpec} (hclosed : spec.isOpenEnded = false) :
    (s.begin spec).2.Gives s.slots.length
      (scriptedEvents methods spec (s.seen.countP fun c => c.path = spec.path)) := by
  obtain ⟨hpeer, houtstanding⟩ := Session.outstanding_accept hserver spec
  refine ⟨hs.begin hpeer, _, s.slot_begin spec, houtstanding, ?_⟩
  simp only [accept, hserver]
  exact Backend.inputOver_accept methods hclosed _ _

theorem CallSpec.isOpenEnded_of_serverStreaming {spec : CallSpec}
    (hshape : spec.invocation.shape = .serverStreaming) : spec.isOpenEnded = false := by
  unfold isOpenEnded
  cases hinvocation : spec.invocation <;> rw [hinvocation] at hshape <;>
    first | rfl | cases hshape

variable (hreachable : c.reachable = true) (hidle : o.scope.Idle s)
  (hserver : s.server = .scripted methods) (hs : s.Scripted)
  (hshape : invocation.shape = .serverStreaming)

include hreachable hidle hserver hs hshape

/-- **A stream is opened** by a response with headers, and gives what comes behind them. -/
theorem Client.serverStreaming_opened {headers : Metadata} {messages : List Reply} {st : Status}
    (hread : Reads (scriptedEvents methods (c.spec service invocation o s)
      (s.seen.countP fun call => call.path = (c.spec service invocation o s).path))
      (.opened headers messages st)) :
    ∃ behind s', c.serverStreaming service invocation o s =
        (.answered (.ok ⟨Responses.opened s.slots.length headers, o.scope⟩), s') ∧
      s'.Gives s.slots.length (messages.map .message ++ .ended st :: behind) ∧ s.Kept s' := by
  obtain ⟨behind, hevents⟩ := hread.begins
  have hclosed : (c.spec service invocation o s).isOpenEnded = false :=
    CallSpec.isOpenEnded_of_serverStreaming hshape
  have hgives := Session.gives_begin hserver hs hclosed
  rw [← hevents, events, List.cons_append, List.append_assoc, List.singleton_append] at hgives
  obtain ⟨s', hrun, hrest, hkept⟩ := (openOperation_takes_opened s.slots.length headers).run hidle
    (openOperation_unsent (c.spec service invocation o s) s) ⟨rfl, rfl, rfl⟩ hgives
  refine ⟨behind, s', ?_, hrest, hkept⟩
  simp only [serverStreaming, openCall_eq, hreachable, hrun]
  rfl

/-- **A stream is refused** by a response without headers. -/
theorem Client.serverStreaming_refused {st : Status}
    (hread : Reads (scriptedEvents methods (c.spec service invocation o s)
      (s.seen.countP fun call => call.path = (c.spec service invocation o s).path))
      (.refused st)) :
    ∃ s', c.serverStreaming service invocation o s = (.answered (.error st), s') := by
  obtain ⟨behind, hevents⟩ := hread.begins
  have hclosed : (c.spec service invocation o s).isOpenEnded = false :=
    CallSpec.isOpenEnded_of_serverStreaming hshape
  have hgives := Session.gives_begin hserver hs hclosed
  rw [← hevents, events, List.singleton_append] at hgives
  obtain ⟨s', hrun, -, -⟩ := (openOperation_takes_ended s.slots.length st).run hidle
    (openOperation_unsent (c.spec service invocation o s) s) ⟨rfl, rfl, rfl⟩ hgives
  refine ⟨(s'.abandon s.slots.length).abandon s.slots.length, ?_⟩
  simp only [serverStreaming, openCall_eq, hreachable, hrun]
  rfl

end Opening

/-! ## Receiving -/

section Receiving

variable {id : CallId} {events : List Event} {s : Session} {st : ServerStream}

theorem nextOperation_takes_message (id : CallId) (m : Reply) :
    (nextOperation id).Takes id () (.message m) (.ok (.message m)) fun s => s where
  waits htake := by simp only [nextOperation, htake]
  ends htake := by simp only [nextOperation, htake]
  alarm _ := rfl
  moment _ := rfl

theorem nextOperation_takes_ended (id : CallId) (status : Status) :
    (nextOperation id).Takes id () (.ended status)
      (if status.code = .ok then .ok (.finished status.metadata) else .error status)
      fun s => s where
  waits htake := by simp only [nextOperation, htake]
  ends htake := by simp only [nextOperation, htake]
  alarm _ := rfl
  moment _ := rfl

/-- **The next message is received.** -/
theorem ServerStream.receive_message {m : Reply} (hlive : st.responses.state = .live id)
    (hidle : st.scope.Idle s) (h : s.Gives id (.message m :: events)) :
    ∃ s', st.receive s = (.answered (.ok (some m)), st, s') ∧ s'.Gives id events ∧ s.Kept s' := by
  obtain ⟨s', hrun, hrest, hkept⟩ := (nextOperation_takes_message id m).run_fresh hidle h
  refine ⟨s', ?_, hrest, hkept⟩
  rw [receive, Responses.receive_of_message hlive hrun]

/-- **The end is received**, as a failure where it is one. -/
theorem ServerStream.receive_ended {status : Status} (hlive : st.responses.state = .live id)
    (hidle : st.scope.Idle s) (h : s.Gives id (.ended status :: events)) :
    ∃ st' s', st.receive s = (.answered status.atEnd, st', s') := by
  obtain ⟨s', hrun, -, hkept⟩ := (nextOperation_takes_ended id status).run_fresh hidle h
  obtain ⟨r', hreceive⟩ := Responses.receive_of_ended hlive (hidle.kept hkept) hrun
  refine ⟨{ st with responses := r' }, s', ?_⟩
  rw [receive, hreceive]

end Receiving

/-! ## How many messages there are -/

section Bound

/-- The event is a message. -/
def Event.isMessage : Event → Bool
  | .message _ => true
  | _ => false

/-- A part holds at most one message. -/
theorem Reception.countP_events_le (r : Reception) (part : ResponsePart) :
    (r.events part).countP Event.isMessage ≤ 1 := by
  cases part with
  | headers md =>
      simp only [events]
      split
      · exact Nat.zero_le 1
      · split <;> exact Nat.zero_le 1
      · exact Nat.zero_le 1
  | message m =>
      simp only [events]
      split
      · exact Nat.zero_le 1
      · split
        · exact Nat.le_refl 1
        · exact Nat.zero_le 1
  | trailers s =>
      simp only [events]
      split <;> exact Nat.zero_le 1
  | refusal s =>
      simp only [events]
      split <;> exact Nat.zero_le 1

theorem Reception.countP_eventsOf_le (r : Reception) (parts : List ResponsePart) :
    (r.eventsOf parts).countP Event.isMessage ≤ parts.length := by
  induction parts generalizing r with
  | nil => exact Nat.le_refl 0
  | cons part rest ih =>
      rw [eventsOf, List.countP_append, List.length_cons, Nat.add_comm rest.length]
      exact Nat.add_le_add (r.countP_events_le part) (ih _)

theorem Behaviour.length_partsFrom_le (b : Behaviour) (steps : List ScriptStep) :
    (b.partsFrom steps).length ≤ steps.length + 1 := by
  rw [partsFrom_eq, List.length_append, List.length_map, List.length_singleton]
  exact Nat.add_le_add_right (List.length_filterMap_le _ steps) 1

/-- The parts that a scripted server has still to send are within its bound. -/
theorem Peer.Scripted.length_parts_le {p : Peer} (h : p.Scripted) : p.parts.length ≤ p.work := by
  rcases p with parts | ⟨scope, state, inbox⟩ | ⟨headers, s, inbox, trailers⟩ |
    ⟨⟨b, pause | steps | _ | _⟩, inbox⟩
  · exact Nat.le_refl _
  · cases h
  · cases h
  · show b.parts.length ≤ b.steps.length + 3
    have hsteps := b.length_partsFrom_le b.steps
    unfold Behaviour.parts
    split
    · rw [List.length_singleton]
      omega
    · rw [List.length_cons]
      omega
  · have hsteps := b.length_partsFrom_le steps
    show (b.partsFrom steps).length ≤ steps.length + 2
    omega
  · exact Nat.zero_le _
  · exact Nat.zero_le _

/-- **The bound on the messages to come holds.** -/
theorem Session.Gives.length_le {s : Session} {id : CallId} {messages : List Reply}
    {behind : List Event} (h : s.Gives id (messages.map .message ++ behind)) :
    messages.length ≤ s.messageBound := by
  obtain ⟨c, hslot, houtstanding, -⟩ := h.call
  have hcall : c.waiting.length + c.peer.work ≤ s.messageBound :=
    List.le_sum_of_mem (List.mem_map_of_mem (List.mem_of_getElem? (getElem?_of_slot hslot)))
  have hmessages : (messages.map Event.message).countP Event.isMessage = messages.length := by
    rw [List.countP_map]
    exact List.countP_eq_length.mpr fun _ _ => rfl
  have hcount := congrArg (List.countP Event.isMessage) houtstanding
  rw [Call.outstanding, List.countP_append, List.countP_append, hmessages] at hcount
  have hwaiting := List.countP_le_length (p := Event.isMessage) (l := c.waiting)
  have hparts := c.reception.countP_eventsOf_le c.peer.parts
  have hwork := (h.scripted.live hslot).length_parts_le
  omega

end Bound

end RpcConformance
