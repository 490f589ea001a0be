import RpcConformance.Proofs.ForetoldCalls

/-!
# Streams whose events are foretold

A client with one call in progress that waits for an event the call owes gets it: at once, when the
call has gone on, or when the clock has jumped to the end of the pause that the server is in.  The
functions of a stream are then what the list of owed events says.  They give no signal and create no
scope, so a scope that nothing has triggered stays so.

## Main results

* `Session.Owing.run_next` — the client gets the next owed event.
* `Client.openCall_owing` — opening a stream leaves the events behind the headers.
* `Responses.receive_message`, `Responses.receive_ended` — receiving takes the next event.
* `BidiStream.send_owing`, `BidiStream.closeSend_owing` — what the sending side adds.
-/

namespace RpcConformance

/-- A jump of the clock is a passage of time. -/
theorem Instant.jumpTo_eq_later (now due : Instant) : ∃ d, now.jumpTo due = now.later d :=
  ⟨⟨(due.tick - now.millis) * 1000000⟩, rfl⟩

/-! ## A session with one call -/

/-- Time has passed and calls have gone on, but no signal has been given and no scope created. -/
structure Session.Kept (s s' : Session) : Prop where
  server : s'.server = s.server
  cancelled : s'.moment.cancelled = s.moment.cancelled
  nextToken : s'.nextToken = s.nextToken

theorem Session.Kept.refl (s : Session) : s.Kept s := ⟨rfl, rfl, rfl⟩

theorem Session.Kept.trans {a b c : Session} (hab : a.Kept b) (hbc : b.Kept c) : a.Kept c :=
  ⟨hbc.server.trans hab.server, hbc.cancelled.trans hab.cancelled,
    hbc.nextToken.trans hab.nextToken⟩

theorem Session.kept_reach (s : Session) (spec : CallSpec) : s.Kept (s.reach spec).2 := by
  unfold reach
  split <;> exact ⟨rfl, rfl, rfl⟩

theorem Session.kept_beginAll (slots : List Slot) (s : Session) : s.Kept (beginAll slots s).2 := by
  induction slots generalizing s with
  | nil => exact .refl s
  | cons slot rest ih =>
      cases slot with
      | vacant => exact ih s
      | live c => exact ih s
      | queued spec requests closed => exact (s.kept_reach spec).trans (ih _)

theorem Session.kept_settle (s : Session) : s.Kept s.settle :=
  (s.kept_beginAll s.slots).trans ⟨rfl, rfl, rfl⟩

/-- The session at another instant. -/
def Session.movedTo (s : Session) (t : Instant) : Session :=
  { s with moment := { s.moment with now := t } }

theorem Session.now_movedTo (s : Session) (t : Instant) : (s.movedTo t).moment.now = t := rfl

theorem Session.kept_movedTo (s : Session) (t : Instant) : s.Kept (s.movedTo t) := ⟨rfl, rfl, rfl⟩

/-- A scope that nothing has triggered, and that only a signal can trigger. -/
structure Scope.Idle (scope : Scope) (s : Session) : Prop where
  unlimited : scope.deadline = none
  unsignalled : s.moment.isCancelled scope.token = false

namespace Scope.Idle

variable {scope : Scope} {s s' : Session}

theorem untriggered (h : scope.Idle s) : scope.failure? s.moment = none := by
  refine failure?_eq_none_iff.mpr ⟨h.unsignalled, ?_⟩
  rw [isExpired, h.unlimited]

theorem check (h : scope.Idle s) : scope.check s.moment = .ok () := by
  rw [Scope.check, h.untriggered]

theorem kept (h : scope.Idle s) (hkept : s.Kept s') : scope.Idle s' := by
  refine ⟨h.unlimited, ?_⟩
  rw [Moment.isCancelled, hkept.cancelled]
  exact h.unsignalled

end Scope.Idle

/-- The only call that has not been given up is the last one. -/
def Session.Holds (s : Session) (id : CallId) (slot : Slot) : Prop :=
  s.slots = List.replicate id .vacant ++ [slot]

namespace Session

/-- All calls have been given up. -/
def Vacant (s : Session) : Prop := ∀ slot ∈ s.slots, slot = .vacant

theorem Vacant.slots_eq {s : Session} (h : s.Vacant) :
    s.slots = List.replicate s.slots.length .vacant :=
  List.eq_replicate_of_mem h

theorem vacant_abandonAll (s : Session) : s.abandonAll.Vacant := by
  intro slot hslot
  obtain ⟨_, _, rfl⟩ := List.mem_map.mp hslot
  rfl

variable {s : Session} {id : CallId} {slot : Slot} {c : Call}

theorem holds_begin (h : s.Vacant) (spec : CallSpec) :
    (s.begin spec).2.Holds s.slots.length (.live (s.accept spec).1) := by
  show s.slots ++ [Slot.live (s.accept spec).1] = _
  rw [← h.slots_eq]

theorem holds_enqueue (h : s.Vacant) (spec : CallSpec) :
    (s.enqueue spec).2.Holds s.slots.length (.queued spec [] false) := by
  show s.slots ++ [Slot.queued spec [] false] = _
  rw [← h.slots_eq]

theorem Holds.slot_eq (h : s.Holds id slot) : s.slot id = slot := by
  rw [Session.slot, h, List.getD_append_right _ _ _ _ (by rw [List.length_replicate]),
    List.length_replicate, Nat.sub_self]
  rfl

theorem Holds.setSlot (h : s.Holds id slot) (slot' : Slot) :
    (s.setSlot id slot').Holds id slot' := by
  show s.slots.set id slot' = _
  rw [h, List.set_append_right _ _ (by rw [List.length_replicate]), List.length_replicate,
    Nat.sub_self]
  rfl

theorem Holds.movedTo (h : s.Holds id slot) (t : Instant) : (s.movedTo t).Holds id slot := h

theorem beginAll_vacant (count : Nat) (slots : List Slot) (s : Session) :
    beginAll (List.replicate count .vacant ++ slots) s =
      (List.replicate count .vacant ++ (beginAll slots s).1, (beginAll slots s).2) := by
  induction count with
  | zero => rfl
  | succ count ih =>
      have hfirst : ∀ rest, beginAll (.vacant :: rest) s =
          (.vacant :: (beginAll rest s).1, (beginAll rest s).2) := fun _ => rfl
      rw [List.replicate_succ, List.cons_append, hfirst, ih]
      rfl

/-- Nothing but the call goes on. -/
theorem Holds.settle_eq (h : s.Holds id (.live c)) :
    s.settle =
      { s with slots := List.replicate id .vacant ++ [.live (c.advance s.moment.now)] } := by
  have hbegun : beginAll s.slots s = (s.slots, s) := by
    rw [h, beginAll_vacant]
    rfl
  simp only [Session.settle, hbegun]
  rw [h, List.map_append, List.map_replicate]
  rfl

theorem Holds.settle (h : s.Holds id (.live c)) :
    s.settle.Holds id (.live (c.advance s.moment.now)) := by
  rw [h.settle_eq]
  rfl

theorem foldl_alarm_vacant (now : Instant) (count : Nat) (slots : List Slot) :
    (List.replicate count Slot.vacant ++ slots).foldl
        (fun t slot => Instant.earliest t (slotAlarm now slot)) none =
      slots.foldl (fun t slot => Instant.earliest t (slotAlarm now slot)) none := by
  induction count with
  | zero => rfl
  | succ count ih => exact ih

theorem Holds.alarm (h : s.Holds id (.live c)) :
    Scheduler.alarm s = c.peer.alarm s.moment.now := by
  show s.slots.foldl (fun t slot => Instant.earliest t (slotAlarm s.moment.now slot)) none = _
  rw [h, foldl_alarm_vacant]
  rfl

end Session

/-! ## Waiting for a pause -/

section Alarm

variable {σ α : Type} (op : Operation Session σ (Except Status α)) (st : σ) {scope : Scope}
  {st₁ st₂ st₃ : σ} {s s₁ s₂ s₃ s₄ : Session}

/-- An operation that waits until the clock has jumped to a timer of another task, and the other
calls have gone on then. -/
theorem Operation.run_guard_of_alarm {due : Instant} {r : Except Status α} (hidle : scope.Idle s)
    (hfirst : op.turn st s = (.waiting st₁, s₁)) (hmoment₁ : s₁.moment = s.moment)
    (hsecond : op.turn st₁ s₁.settle = (.waiting st₂, s₂)) (hmoment₂ : s₂.moment = s.moment)
    (hown : op.alarm st₂ s₂ = none) (halarm : Scheduler.alarm s₂ = some due)
    (hthird : op.turn st₂ (s₂.movedTo (s₂.moment.now.jumpTo due)) = (.waiting st₃, s₃))
    (hsignals₃ : s₃.moment.cancelled = s.moment.cancelled)
    (hfourth : op.turn st₃ s₃.settle = (.ready r, s₄)) (hmoment₄ : s₄.moment = s₃.moment) :
    s.run (scope.guard op) (.fresh st) = (.answered r, s₄) := by
  -- No turn gives a signal, so the scope stays untriggered through all four of them.
  have hthen : ∀ s' : Session, s'.moment.cancelled = s.moment.cancelled →
      scope.failure? s'.moment = none := by
    intro s' hcancelled
    refine Scope.failure?_eq_none_iff.mpr ⟨?_, ?_⟩
    · rw [Scope.isCancelled, Moment.isCancelled, hcancelled]
      exact hidle.unsignalled
    · rw [Scope.isExpired, hidle.unlimited]
  have hsettled₁ : s₁.settle.moment = s.moment := (Session.moment_settle s₁).trans hmoment₁
  have hsettled₃ : s₃.settle.moment = s₃.moment := Session.moment_settle s₃
  have hturn₁ : (scope.guard op).turn (.fresh st) s = (.waiting (.racing st₁), s₁) := by
    rw [guard_turn_of_untriggered op hidle.untriggered]
    show scope.passOn (op.turn st s) = _
    rw [hfirst]
    rfl
  have hturn₂ : (scope.guard op).turn (.racing st₁) s₁.settle = (.waiting (.racing st₂), s₂) := by
    rw [guard_turn_of_untriggered op (hthen _ (by rw [hsettled₁]))]
    show scope.passOn (op.turn st₁ s₁.settle) = _
    rw [hsecond]
    rfl
  have hmoved : (s₂.movedTo (s₂.moment.now.jumpTo due)).moment.cancelled = s.moment.cancelled := by
    rw [(s₂.kept_movedTo _).cancelled, hmoment₂]
  have hturn₃ : (scope.guard op).turn (.racing st₂)
      (s₂.movedTo (s₂.moment.now.jumpTo due)) = (.waiting (.racing st₃), s₃) := by
    rw [guard_turn_of_untriggered op (hthen _ hmoved)]
    show scope.passOn (op.turn st₂ _) = _
    rw [hthird]
    rfl
  have hturn₄ : (scope.guard op).turn (.racing st₃) s₃.settle = (.ready r, s₄) :=
    guard_turn_ready op (hthen _ (by rw [hsettled₃, hsignals₃])) hfourth
      (hmoment₄.trans hsettled₃.symm)
  have hguard : (scope.guard op).alarm (.racing st₂) s₂ = none := by
    have hsignal : scope.isCancelled s₂.moment = false := by
      rw [hmoment₂]
      exact hidle.unsignalled
    show (if scope.isCancelled s₂.moment then some Instant.start
      else Instant.earliest scope.deadline (op.alarm st₂ s₂)) = none
    rw [hsignal, hidle.unlimited, hown]
    rfl
  have hsettle : ∀ s' : Session, (Scheduler.settle s' : Session) = s'.settle := fun _ => rfl
  have hjump : Operation.jump (scope.guard op) none (.racing st₂) s₂ =
      (true, s₂.movedTo (s₂.moment.now.jumpTo due)) := by
    simp only [Operation.jump, hguard, halarm]
    rfl
  have hround : Operation.round (scope.guard op) none (.fresh st) s =
      (.waiting (.racing st₂), s₂) := by
    simp only [Operation.round, hturn₁, Operation.isOver, Option.any_none, hsettle, hturn₂]
    rfl
  have hround' : Operation.round (scope.guard op) none (.racing st₂)
      (s₂.movedTo (s₂.moment.now.jumpTo due)) = (.ready r, s₄) := by
    simp only [Operation.round, hturn₃, Operation.isOver, Option.any_none, hsettle, hturn₄]
    rfl
  have hwait : Operation.wait (scope.guard op) none (1 + Scheduler.timers s₂ + 1)
      (.racing st₂) s₂ = (.answered r, s₄) := by
    simp only [Operation.wait, hjump, hround']
  have hfuel : 2 + Scheduler.timers s₂ = 1 + Scheduler.timers s₂ + 1 := by omega
  simp only [Session.run, Operation.run, hround]
  rw [hfuel]
  exact hwait

end Alarm

/-! ## The next event -/

/-- The only call in progress owes some events. -/
def Session.Owing (F : Forecast) (reception : Reception) (ending : Option Item) (id : CallId)
    (events : List Event) (s : Session) : Prop :=
  ∃ c, s.Holds id (.live c) ∧ c.Owes F reception ending s.moment.now events

/-- The bound that the session gives is enough for what the call owes. -/
theorem Session.Owing.length_le {F : Forecast} {reception : Reception} {ending : Option Item}
    {id : CallId} {events : List Event} {s : Session}
    (hF : ∀ {payloads w st}, F payloads ending w st →
      (Forecast.items payloads ending).length ≤ Peer.responsesLeft st + 4)
    (h : s.Owing F reception ending id events) : events.length ≤ s.messageBound := by
  obtain ⟨c, hc, howes⟩ := h
  obtain ⟨items, hpeer, rfl⟩ := howes.items
  have hbound : s.messageBound = c.waiting.length + c.peer.work := by
    show (s.slots.map slotMessages).sum = _
    rw [hc]
    simp [slotMessages]
  have hwork := hpeer.length_le hF
  rw [hbound, List.length_append, Reception.length_itemEvents]
  omega

section Next

variable {F : Forecast} {reception : Reception} {ending : Option Item} {id : CallId}
  {events : List Event} {e : Event} {s : Session} {scope : Scope} {r : Except Status Received}

theorem nextOperation_turn_of_empty {c : Call} (h : s.Holds id (.live c))
    (hwaiting : c.waiting = []) : (nextOperation id).turn () s = (.waiting (), s) := by
  simp only [nextOperation, Session.take_of_nil h.slot_eq hwaiting]

/-- An event that waits is taken. -/
theorem Session.Owing.turn_next {c : Call} (h : s.Holds id (.live c))
    (howes : c.Owes F reception ending s.moment.now (e :: events)) (hwaiting : c.waiting ≠ [])
    (hr : ∀ {s s' : Session}, s.take id = some (e, s') →
      (nextOperation id).turn () s = (.ready r, s')) :
    ∃ s', (nextOperation id).turn () s = (.ready r, s') ∧
      s'.Owing F reception ending id events ∧ s'.moment = s.moment ∧ s.Kept s' := by
  obtain ⟨first, rest, hfirst⟩ := List.exists_cons_of_ne_nil hwaiting
  obtain ⟨events', hevents, howes'⟩ := howes.take hfirst
  obtain ⟨rfl, rfl⟩ := List.cons.inj hevents
  have htake := Session.take_live h.slot_eq hfirst
  exact ⟨_, hr htake, ⟨_, h.setSlot _, howes'⟩, rfl, rfl, rfl, rfl⟩

/-- A server in a pause has the event ready when the clock has jumped to the end of it. -/
theorem Session.Owing.run_next_pausing {c : Call} {due : Instant} (hF : F.Sound)
    (hidle : scope.Idle s) (hc : s.Holds id (.live c)) (hwaiting : c.waiting = [])
    (howes : (c.advance s.moment.now).Owes F reception ending s.moment.now (e :: events))
    (hready : (c.advance s.moment.now).waiting = [])
    (hpausing : (c.advance s.moment.now).peer.Pausing due)
    (hr : ∀ {s s' : Session}, s.take id = some (e, s') →
      (nextOperation id).turn () s = (.ready r, s')) :
    ∃ s', s.run (scope.guard (nextOperation id)) (.fresh ()) = (.answered r, s') ∧
      s'.Owing F reception ending id events ∧ s.Kept s' := by
  have hmoment : s.settle.moment = s.moment := Session.moment_settle s
  have halarm : Scheduler.alarm s.settle = some due := by
    rw [hc.settle.alarm]
    exact hpausing.alarm _
  -- The server has set the only timer, so the clock jumps to the end of its pause.
  obtain ⟨d, hjump⟩ := Instant.jumpTo_eq_later s.moment.now due
  have hlater : s.settle.moment.now.jumpTo due = s.moment.now.later d := by rw [hmoment, hjump]
  obtain ⟨s₃, hs₃⟩ : ∃ s₃, s₃ = s.settle.movedTo (s.moment.now.later d) := ⟨_, rfl⟩
  have hholds : s₃.Holds id (.live (c.advance s.moment.now)) := by
    rw [hs₃]
    exact hc.settle.movedTo _
  have hkept : s.Kept s₃ := by
    rw [hs₃]
    exact s.kept_settle.trans (s.settle.kept_movedTo _)
  have hnow : s₃.moment.now = s.moment.now.later d := by rw [hs₃, Session.now_movedTo]
  have hfired : Instant.fired due s₃.moment.now = true := by
    rw [hnow, ← hjump]
    exact Instant.fired_jumpTo _ _
  obtain ⟨part, p, hturn⟩ := hpausing.turn hfired
  have howes₃ : (c.advance s.moment.now).Owes F reception ending s₃.moment.now (e :: events) := by
    rw [hnow]
    exact howes.pass hF d
  have hsettled : s₃.settle.moment = s₃.moment := Session.moment_settle s₃
  obtain ⟨s', hturn', howing, hmoment', hkept'⟩ := Session.Owing.turn_next hholds.settle
    (by rw [hsettled]; exact howes₃.advance hF) (Call.waiting_advance_ne_nil hturn) hr
  refine ⟨s', ?_, howing, (hkept.trans s₃.kept_settle).trans hkept'⟩
  refine Operation.run_guard_of_alarm (nextOperation id) () hidle
    (nextOperation_turn_of_empty hc hwaiting) rfl (nextOperation_turn_of_empty hc.settle hready)
    hmoment rfl halarm ?_ hkept.cancelled hturn' (hmoment'.trans hsettled)
  rw [hlater, ← hs₃]
  exact nextOperation_turn_of_empty hholds hready

/-- **The client gets the next owed event.** -/
theorem Session.Owing.run_next (hF : F.Sound) (hidle : scope.Idle s)
    (h : s.Owing F reception ending id (e :: events))
    (hr : ∀ {s s' : Session}, s.take id = some (e, s') →
      (nextOperation id).turn () s = (.ready r, s')) :
    ∃ s', s.run (scope.guard (nextOperation id)) (.fresh ()) = (.answered r, s') ∧
      s'.Owing F reception ending id events ∧ s.Kept s' := by
  obtain ⟨c, hc, howes⟩ := h
  by_cases hwaiting : c.waiting = []
  case neg =>
    obtain ⟨s', hturn, howing, hmoment, hkept⟩ := Session.Owing.turn_next hc howes hwaiting hr
    exact ⟨s', Operation.run_guard_of_first (nextOperation id) () hidle.untriggered hturn hmoment,
      howing, hkept⟩
  by_cases hready : (c.advance s.moment.now).waiting = []
  case neg =>
    have hmoment : s.settle.moment = s.moment := Session.moment_settle s
    obtain ⟨s', hturn, howing, hmoment', hkept⟩ := Session.Owing.turn_next hc.settle
      (by rw [hmoment]; exact howes.advance hF) hready hr
    exact ⟨s', Operation.run_guard_of_second (nextOperation id) () hidle.untriggered
      (nextOperation_turn_of_empty hc hwaiting) rfl hturn (hmoment'.trans hmoment), howing,
      s.kept_settle.trans hkept⟩
  obtain ⟨due, hpausing⟩ :=
    (howes.ready_or_pausing hF (List.cons_ne_nil e events)).resolve_left (absurd hready)
  exact Session.Owing.run_next_pausing hF hidle hc hwaiting (howes.advance hF) hready hpausing hr

end Next

/-! ## The functions of a stream -/

section Streams

variable {F : Forecast} {reception : Reception} {ending : Option Item} {id : CallId}
  {events : List Event} {s : Session} {scope : Scope}

/-- What a stream answers at its end. -/
def Status.atEnd (st : Status) : Except Status (Option Reply) :=
  if st.code = .ok then .ok none else .error st

section Awaited

variable {r : Responses} {s' : Session} (hlive : r.state = .live id)

include hlive

/-- The wait for the next event gives a message. -/
theorem Responses.receive_of_message {m : Reply}
    (hrun : s.run (scope.guard (nextOperation id)) (.fresh ()) =
      (.answered (.ok (.message m)), s')) :
    r.receive scope s = (.answered (.ok (some m)), r, s') := by
  simp only [receive, hlive, hrun]

/-- It gives the end, in a scope that is still not triggered. -/
theorem Responses.receive_of_ended {st : Status} (hidle : scope.Idle s')
    (hrun : s.run (scope.guard (nextOperation id)) (.fresh ()) =
      (.answered (if st.code = .ok then .ok (.finished st.metadata) else .error st), s')) :
    ∃ r', r.receive scope s = (.answered st.atEnd, r', s') := by
  by_cases hcode : st.code = .ok
  · rw [if_pos hcode] at hrun
    refine ⟨{ r with trailers := st.metadata, state := .finished }, ?_⟩
    simp only [receive, hlive, hrun, hidle.check, Status.atEnd, if_pos hcode]
  · rw [if_neg hcode] at hrun
    refine ⟨r.fail st, ?_⟩
    simp only [receive, hlive, hrun, Status.atEnd, if_neg hcode]

end Awaited

/-- A message that is owed is received. -/
theorem Responses.receive_message {r : Responses} {m : Reply} (hF : F.Sound)
    (hlive : r.state = .live id) (hidle : scope.Idle s)
    (h : s.Owing F reception ending id (.message m :: events)) :
    ∃ s', r.receive scope s = (.answered (.ok (some m)), r, s') ∧
      s'.Owing F reception ending id events ∧ s.Kept s' := by
  obtain ⟨s', hrun, howing, hkept⟩ := h.run_next (r := .ok (.message m)) hF hidle
    fun htake => by simp only [nextOperation, htake]
  exact ⟨s', receive_of_message hlive hrun, howing, hkept⟩

/-- An end that is owed is received, as a failure where it is one. -/
theorem Responses.receive_ended {r : Responses} {st : Status} (hF : F.Sound)
    (hlive : r.state = .live id) (hidle : scope.Idle s)
    (h : s.Owing F reception ending id (.ended st :: events)) :
    ∃ r' s', r.receive scope s = (.answered st.atEnd, r', s') ∧ s.Kept s' := by
  obtain ⟨s', hrun, _, hkept⟩ := h.run_next hF hidle
    fun htake => by simp only [nextOperation, htake]; rfl
  obtain ⟨r', hreceive⟩ := receive_of_ended hlive (hidle.kept hkept) hrun
  exact ⟨r', s', hreceive, hkept⟩

/-- A request that can be read is sent, and adds the responses to it. -/
theorem BidiStream.send_owing {F' : Forecast} {st : BidiStream} {r : StreamingOutputRequest}
    {more : List Payload} (hF : F.Sound) (hsender : st.sender = some id) (hidle : st.scope.Idle s)
    (hfits : reception.compressed = true ∨ r.encodedLength ≤ maxMessageLength)
    (hF' : ∀ payloads w st, F payloads none w st →
      F' (payloads ++ more) none { w with inbox := w.inbox.push (.message r) } st)
    (h : s.Owing F reception none id events) :
    ∃ s', st.send (.output r) s = (.answered (.ok ()), st, s') ∧
      s'.Owing F' reception none id (events ++ reception.itemEvents (more.map .response)) ∧
      s.Kept s' := by
  have hsent : ∀ {s₁ s' : Session} {b : Bool}, s₁.Owing F reception none id events →
      Sent id (.output r) s₁ b s' → b = true ∧
        s'.Owing F' reception none id (events ++ reception.itemEvents (more.map .response)) ∧
        s₁.Kept s' := by
    rintro s₁ s' b ⟨c, hc, howes⟩ hsent
    cases hsent with
    | lost hslot => rw [hc.slot_eq] at hslot; cases hslot
    | queued hslot => rw [hc.slot_eq] at hslot; cases hslot
    | unread hslot hreads =>
        rw [hc.slot_eq] at hslot
        cases hslot
        rw [howes.reads] at hreads
        cases hreads
    | pushed hslot hreads =>
        rw [hc.slot_eq] at hslot
        cases hslot
        exact ⟨rfl, ⟨_, hc.setSlot _, howes.push hfits hF'⟩, rfl, rfl, rfl⟩
  obtain ⟨b, s', hsend, hnow | hsettled⟩ :=
    st.send_of_untriggered hsender hidle.untriggered (.output r)
  · obtain ⟨rfl, howing, hkept⟩ := hsent h hnow
    exact ⟨s', hsend, howing, hkept⟩
  · obtain ⟨c, hc, howes⟩ := h
    have hadvanced : s.settle.Owing F reception none id events := by
      refine ⟨_, hc.settle, ?_⟩
      rw [Session.moment_settle]
      exact howes.advance hF
    obtain ⟨rfl, howing, hkept⟩ := hsent hadvanced hsettled
    exact ⟨s', hsend, howing, s.kept_settle.trans hkept⟩

/-- Closing the sending side adds what the end of the input asks for. -/
theorem BidiStream.closeSend_owing {F' : Forecast} {st : BidiStream} {more : List Payload}
    {ending' : Option Item} (hsender : st.sender = some id)
    (hF' : ∀ payloads w st, F payloads none w st →
      F' (payloads ++ more) ending' { w with inbox := w.inbox.close } st)
    (h : s.Owing F reception none id events) :
    ∃ s', st.closeSend s = ({ st with sender := none }, s') ∧
      s'.Owing F' reception ending' id
        (events ++ reception.itemEvents (Forecast.items more ending')) ∧ s.Kept s' := by
  obtain ⟨c, hc, howes⟩ := h
  have hclose : s.close id = s.setSlot id (.live c.close) := by
    simp only [Session.close, hc.slot_eq]
  refine ⟨s.setSlot id (.live c.close), ?_, ⟨_, hc.setSlot _, howes.close hF'⟩, rfl, rfl, rfl⟩
  simp only [closeSend, hsender, hclose]

end Streams

/-! ## Opening -/

section Opening

variable {F : Forecast} {payloads : List Payload} {ending : Option Item} {c : Client}
  {invocation : Invocation} {o : CallOptions} {s : Session} {stream : ResponseStream}
  {inbox : Inbox StreamingOutputRequest}

/-- A call that the reference server opens without headers of its own. -/
theorem Call.owes_opening (hF : F.Sound) (invocation : Invocation) (compressed : Bool)
    (now : Instant) (h : F payloads ending ⟨Peer.moment now, inbox⟩ stream) :
    ∃ rest, ((Call.mk (.streaming (some .empty) stream inbox none)
        ⟨invocation, compressed, false⟩ [] 0).advance now).waiting = .opened .empty :: rest ∧
      ((Call.mk (.streaming (some .empty) stream inbox none)
        ⟨invocation, compressed, false⟩ [] 0).advance now).Owes F
          ⟨invocation, compressed, false⟩ ending now
          (.opened .empty ::
            Reception.itemEvents ⟨invocation, compressed, false⟩
              (Forecast.items payloads ending)) := by
  have hbehind : (Call.mk (.streaming none stream inbox none) ⟨invocation, compressed, false⟩
      [.opened .empty] 0).Owes F ⟨invocation, compressed, false⟩ ending now
      (.opened .empty ::
        Reception.itemEvents ⟨invocation, compressed, false⟩ (Forecast.items payloads ending)) :=
    ⟨rfl, _, .streaming h, rfl⟩
  have hadvance := hbehind.advanceWithin hF
    (Peer.streaming (some .empty) stream inbox none).work
  obtain ⟨rest, hrest⟩ := Call.isPrefix_advanceWithin now
    (Peer.streaming (some .empty) stream inbox none).work
    (Call.mk (.streaming none stream inbox none) ⟨invocation, compressed, false⟩
      [.opened .empty] 0)
  exact ⟨rest, hrest.symm, hadvance.read, hadvance.items⟩

/-- **A stream is opened**, and owes what its server is going to give. -/
theorem Client.openCall_owing (hF : F.Sound) (hreachable : c.reachable = true)
    (hvacant : s.Vacant) (hidle : o.scope.Idle s)
    (haccept : (s.accept (c.spec .test invocation o s)).1 =
      ⟨.streaming (some .empty) stream inbox none,
        ⟨invocation, c.target.compression, false⟩, [], 0⟩)
    (h : F payloads ending ⟨Peer.moment s.moment.now, inbox⟩ stream) :
    ∃ s', c.openCall .test invocation o s =
        (.answered (.ok (s.slots.length, Responses.opened s.slots.length .empty)), s') ∧
      s'.Owing F ⟨invocation, c.target.compression, false⟩ ending s.slots.length
        (Reception.itemEvents ⟨invocation, c.target.compression, false⟩
          (Forecast.items payloads ending)) ∧ s.Kept s' := by
  obtain ⟨rest, hwaiting, howes⟩ :=
    Call.owes_opening hF invocation c.target.compression s.moment.now h
  have hbegun := Session.holds_begin hvacant (c.spec .test invocation o s)
  rw [haccept] at hbegun
  have hsettled := hbegun.settle
  have htake := Session.take_live hsettled.slot_eq hwaiting
  have hturn := openOperation_opened htake
  have hmoment := Session.moment_settle (s.begin (c.spec .test invocation o s)).2
  have hrun := Operation.run_guard_of_second openOperation
    (.unsent (c.spec .test invocation o s)) hidle.untriggered rfl rfl hturn hmoment
  obtain ⟨events, hevents, howes'⟩ := howes.take hwaiting
  obtain ⟨_, rfl⟩ := List.cons.inj hevents
  refine ⟨_, by simp only [openCall_eq, hreachable, hrun]; rfl, ⟨_, hsettled.setSlot _, ?_⟩, ?_⟩
  · rw [show ((s.begin (c.spec .test invocation o s)).2.settle.setSlot s.slots.length _).moment =
      s.moment from hmoment]
    exact howes'
  · have hkept : s.Kept (s.begin (c.spec .test invocation o s)).2 := ⟨rfl, rfl, rfl⟩
    exact (hkept.trans (Session.kept_settle _)).trans ⟨rfl, rfl, rfl⟩

theorem Client.serverStreaming_owing (hF : F.Sound) (hreachable : c.reachable = true)
    (hvacant : s.Vacant) (hidle : o.scope.Idle s)
    (haccept : (s.accept (c.spec .test invocation o s)).1 =
      ⟨.streaming (some .empty) stream inbox none,
        ⟨invocation, c.target.compression, false⟩, [], 0⟩)
    (h : F payloads ending ⟨Peer.moment s.moment.now, inbox⟩ stream) :
    ∃ s', c.serverStreaming .test invocation o s =
        (.answered (.ok ⟨Responses.opened s.slots.length .empty, o.scope⟩), s') ∧
      s'.Owing F ⟨invocation, c.target.compression, false⟩ ending s.slots.length
        (Reception.itemEvents ⟨invocation, c.target.compression, false⟩
          (Forecast.items payloads ending)) ∧ s.Kept s' := by
  obtain ⟨s', hopen, howing, hkept⟩ := c.openCall_owing hF hreachable hvacant hidle haccept h
  exact ⟨s', by simp only [serverStreaming, hopen], howing, hkept⟩

theorem Client.bidiStreaming_owing (hF : F.Sound) (hreachable : c.reachable = true)
    (hvacant : s.Vacant) (hidle : o.scope.Idle s)
    (haccept : (s.accept (c.spec .test invocation o s)).1 =
      ⟨.streaming (some .empty) stream inbox none,
        ⟨invocation, c.target.compression, false⟩, [], 0⟩)
    (h : F payloads ending ⟨Peer.moment s.moment.now, inbox⟩ stream) :
    ∃ s', c.bidiStreaming invocation o s = (.answered (.ok
        ⟨some s.slots.length, Responses.opened s.slots.length .empty, o.scope⟩), s') ∧
      s'.Owing F ⟨invocation, c.target.compression, false⟩ ending s.slots.length
        (Reception.itemEvents ⟨invocation, c.target.compression, false⟩
          (Forecast.items payloads ending)) ∧ s.Kept s' := by
  obtain ⟨s', hopen, howing, hkept⟩ := c.openCall_owing hF hreachable hvacant hidle haccept h
  exact ⟨s', by simp only [bidiStreaming, hopen], howing, hkept⟩

end Opening

end RpcConformance
