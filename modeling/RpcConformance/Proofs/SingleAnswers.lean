import RpcConformance.Proofs.ScriptedSessions

/-!
# Waiting for a single response

A client that waits for the single response of a call goes through what has come of the call, lets
the servers go on, and moves the clock to the next timer.  The events that it has still to see
always lead to one result.  In a session of scripted calls every timer that fires leaves less to do,
so the wait comes to that result, unless the scope of the call is triggered before; and with a
deadline it is over when the deadline's timer fires.

A call that a client waits for at once and one that runs by itself are waited for in the same way.
What they have in common is an operation that *joins* a call.

## Main results

* `Session.Expects.answers` — a wait comes to an end.
* `Session.run_unary` — a call with one request and one response is answered.
* `Session.run_join` — so is a call that runs by itself when it is joined.
-/

namespace RpcConformance

variable {σ : Type} {scope : Scope} {s s' s₁ : Session} {id : CallId} {c : Call} {seen : Single}
  {r res : Except Status SingleResponse}

/-! ## How a wait ends -/

/-- How the wait for a response ends that comes to a result of its own. -/
structure Session.Concludes (scope : Scope) (r : Except Status SingleResponse) (s : Session)
    (res : Except Status SingleResponse) (s' : Session) : Prop where
  scripted : s'.Scripted
  /-- In an untriggered scope it has the result. -/
  untriggered : scope.failure? s'.moment = none → res = r
  /-- It succeeds with nothing else, and not where the signal or the timer can be seen. -/
  succeeds : ∀ response, res = .ok response → r = .ok response ∧ ¬scope.Noticed s'.moment
  /-- In a triggered scope it fails with the code of the scope. -/
  fails : ∀ own st, scope.failure? s'.moment = some own → res = .error st → st.code = own.code
  /-- It is not waited for past the deadline's timer. -/
  bounded : ∀ d, scope.deadline = some d →
    s'.moment.now.millis ≤ max s.moment.now.millis d.tick

/-- The wait began earlier, and not after the deadline's timer. -/
theorem Session.Concludes.of_later (h : s₁.Concludes scope r res s')
    (hbounded : ∀ d, scope.deadline = some d →
      s₁.moment.now.millis ≤ max s.moment.now.millis d.tick) : s.Concludes scope r res s' := by
  refine ⟨h.scripted, h.untriggered, h.succeeds, h.fails, fun d hd => ?_⟩
  have hlater := h.bounded d hd
  have hearlier := hbounded d hd
  omega

/-- A scope that is triggered at once. -/
theorem Session.concludes_of_triggered {own : Status} (hs : s.Scripted)
    (h : scope.failure? s.moment = some own) : s.Concludes scope r (.error own) s where
  scripted := hs
  untriggered hnone := by
    rw [h] at hnone
    cases hnone
  succeeds := nofun
  fails own' st hown hst := by
    rw [h] at hown
    cases hown
    cases hst
    rfl
  bounded _ _ := Nat.le_max_left _ _

/-! ## Operations that join a call -/

/-- The events that have come of a call have been taken. -/
def Session.taken (s : Session) (id : CallId) (c : Call) : Session :=
  s.setSlot id (.live { c with waiting := [] })

/-- An operation that, in some of its states, goes through what has come of a call. -/
structure Operation.Joins (op : Operation Session σ (Except Status SingleResponse)) (id : CallId)
    (seeing : Single → σ) : Prop where
  waits : ∀ {seen seen' : Single} {s : Session} {c : Call}, s.slot id = .live c →
    Single.absorb seen c.waiting = .waiting seen' →
      op.turn (seeing seen) s = (.waiting (seeing seen'), s.taken id c)
  /-- At the result it may give the call up. -/
  ends : ∀ {seen : Single} {s : Session} {c : Call} {r : Except Status SingleResponse},
    s.slot id = .live c → Single.absorb seen c.waiting = .ready r → s.Scripted →
      ∃ s', op.turn (seeing seen) s = (.ready r, s') ∧ s'.moment = s.moment ∧ s'.Scripted
  alarm : ∀ st s, op.alarm st s = none

theorem Single.takeAll_live (seen : Single) (h : s.slot id = .live c) :
    seen.takeAll id s = (absorb seen c.waiting, s.taken id c) := by
  simp only [takeAll, h]
  rfl

theorem Session.Scripted.taken (h : s.Scripted) (hslot : s.slot id = .live c) :
    (s.taken id c).Scripted := by
  have hpeer := h.live hslot
  exact h.setSlot hpeer

theorem unaryOperation_joins (id : CallId) : unaryOperation.Joins id (.sent id) where
  waits hslot hevents := by
    simp only [unaryOperation, Single.takeAll_live _ hslot, hevents]
  ends {_ s c _} hslot hevents hs := by
    refine ⟨(s.taken id c).abandon id, ?_, rfl, (hs.taken hslot).abandon id⟩
    simp only [unaryOperation, Single.takeAll_live _ hslot, hevents]
  alarm _ _ := rfl

theorem joinOperation_joins (id : CallId) : (joinOperation id).Joins id fun seen => seen where
  waits hslot hevents := by
    simp only [joinOperation, hslot, Single.takeAll_live _ hslot, hevents]
  ends {_ s c _} hslot hevents hs := by
    refine ⟨s.taken id c, ?_, rfl, hs.taken hslot⟩
    simp only [joinOperation, hslot, Single.takeAll_live _ hslot, hevents]
  alarm _ _ := rfl

/-! ## What is awaited -/

theorem Single.absorb_append (seen : Single) (events more : List Event) :
    absorb seen (events ++ more) = match absorb seen events with
      | .ready r => .ready r
      | .waiting seen' => absorb seen' more := by
  induction events generalizing seen with
  | nil => rfl
  | cons e rest ih =>
      simp only [List.cons_append, absorb]
      cases step seen e with
      | ready r => rfl
      | waiting seen' => exact ih seen'

/-- The events that a client has still to see of a call lead to a result, and the server does not
wait for more of the client. -/
structure Call.Due (seen : Single) (r : Except Status SingleResponse) (c : Call) : Prop where
  result : Single.absorb seen c.outstanding = .ready r
  inputOver : c.peer.InputOver

/-- A call that has gone on still leads to the result, and nothing but a timer keeps the server
from sending the rest. -/
theorem Call.Due.advance (h : c.Due seen r) (hpeer : c.peer.Scripted) (now : Instant) :
    (c.advance now).Due seen r ∧
      ((c.advance now).peer.parts = [] ∨
        ∃ due, ∀ now', (c.advance now).peer.alarm now' = some due) := by
  have hadvanced := Call.advanced_advance hpeer now
  obtain ⟨hover, hrest⟩ := hadvanced.inputOver h.inputOver
  exact ⟨⟨by rw [hadvanced.outstanding, h.result], hover⟩, hrest⟩

/-- What has come is taken, and what is still to come leads to the result. -/
theorem Call.Due.take {seen' : Single} (h : c.Due seen r)
    (hevents : Single.absorb seen c.waiting = .waiting seen') :
    ({ c with waiting := [] } : Call).Due seen' r := by
  refine ⟨?_, h.inputOver⟩
  have hresult := h.result
  rw [Call.outstanding, Single.absorb_append, hevents] at hresult
  exact hresult

/-- A session in which a client has taken all that has come of a call, and waits for a timer. -/
structure Session.Expects (id : CallId) (seen : Single) (r : Except Status SingleResponse)
    (s : Session) : Prop where
  scripted : s.Scripted
  begun : s.Begun
  call : ∃ c, s.slot id = .live c ∧ c.waiting = [] ∧ c.Due seen r ∧
    ∃ due, ∀ now, c.peer.alarm now = some due

/-- Time passes. -/
theorem Session.Expects.pass (h : s.Expects id seen r) (m : Moment) :
    ({ s with moment := m } : Session).Expects id seen r :=
  ⟨h.scripted, h.begun, h.call⟩

theorem Session.slot_taken (hslot : s.slot id = .live c) :
    (s.taken id c).slot id = .live { c with waiting := [] } :=
  slot_setSlot_self _ (lt_length_of_live hslot)

/-- A call that has gone on and been taken is awaited. -/
theorem Session.expects_taken (hscripted : s.Scripted) (hbegun : s.Begun)
    (hslot : s.slot id = .live c) (hdue : ({ c with waiting := [] } : Call).Due seen r)
    (hrest : c.peer.parts = [] ∨ ∃ due, ∀ now, c.peer.alarm now = some due) :
    (s.taken id c).Expects id seen r := by
  refine ⟨hscripted.taken hslot, hbegun.setSlot trivial, _, slot_taken hslot, rfl, hdue, ?_⟩
  refine hrest.resolve_left fun hparts => ?_
  have hresult := hdue.result
  rw [Call.outstanding, hparts] at hresult
  cases hresult

/-! ## One turn -/

/-- A guard sees nothing before a later turn unless the signal or the timer is there. -/
theorem Scope.unseen_racing {σ : Type} {st : σ} {m : Moment} (h : ¬scope.Noticed m) :
    scope.seen? (.racing st) m = none := by
  obtain ⟨hsignal, htimer⟩ := not_or.mp h
  simp only [seen?, hsignal, htimer]
  rfl

section Joined

variable {op : Operation Session σ (Except Status SingleResponse)} {seeing : Single → σ}

/-- What a guarded turn makes of a call that leads to a result: it comes to it, or waits for the
rest. -/
inductive Session.JoinTurn (scope : Scope) (id : CallId) (seeing : Single → σ)
    (r : Except Status SingleResponse) (s : Session) (c : Call) :
    Turn (Scope.Guarded σ) (Except Status SingleResponse) × Session → Prop
  | ends {res : Except Status SingleResponse} {s' : Session} (h : s.Concludes scope r res s') :
      JoinTurn scope id seeing r s c (.ready res, s')
  | waits {seen : Single} (hunnoticed : ¬scope.Noticed s.moment)
      (hdue : ({ c with waiting := [] } : Call).Due seen r) :
      JoinTurn scope id seeing r s c (.waiting (.racing (seeing seen)), s.taken id c)

/-- **What a turn makes of such a call.** -/
theorem Operation.Joins.turn (hop : op.Joins id seeing) (scope : Scope) {g : Scope.Guarded σ}
    (hinner : g.inner = seeing seen) (hscripted : s.Scripted) (hslot : s.slot id = .live c)
    (hdue : c.Due seen r) : s.JoinTurn scope id seeing r c ((scope.guard op).turn g s) := by
  cases hseen : scope.seen? g s.moment with
  | some own =>
      rw [Scope.guard_turn_of_seen scope op hseen]
      exact .ends (Session.concludes_of_triggered hscripted (Scope.failure?_of_seen hseen))
  | none =>
      obtain ⟨hsignal, htimer⟩ := Scope.not_fired_of_unseen hseen
      have hunnoticed : ¬scope.Noticed s.moment := by
        rintro (hgiven | hfired)
        · rw [hsignal] at hgiven
          cases hgiven
        · rw [htimer] at hfired
          cases hfired
      rw [Scope.guard_turn_of_unseen scope op hseen, hinner]
      cases hevents : Single.absorb seen c.waiting with
      | waiting seen' =>
          rw [hop.waits hslot hevents]
          exact .waits hunnoticed (hdue.take hevents)
      | ready r' =>
          have hresult := hdue.result
          rw [Call.outstanding, Single.absorb_append, hevents] at hresult
          obtain rfl : r' = r := by
            cases hresult
            rfl
          obtain ⟨s', hturn, hmoment, hscripted'⟩ := hop.ends hslot hevents hscripted
          rw [hturn]
          have hbounded : ∀ d, scope.deadline = some d →
              s'.moment.now.millis ≤ max s.moment.now.millis d.tick := by
            intro d _
            rw [hmoment]
            exact Nat.le_max_left _ _
          rw [← hmoment] at hunnoticed
          cases r' with
          | ok response =>
              refine .ends ⟨hscripted', fun _ => rfl, ?_, ?_, hbounded⟩
              · rintro response' ⟨⟩
                exact ⟨rfl, hunnoticed⟩
              · rintro _ _ _ ⟨⟩
          | error st =>
              refine .ends ⟨hscripted', fun hnone => ?_, ?_, ?_, hbounded⟩
              · exact congrArg Except.error (Scope.overrule_of_untriggered st hnone)
              · rintro _ ⟨⟩
              · rintro own st' hown ⟨⟩
                exact Scope.overrule_code st hown

/-! ## The wait -/

/-- A call that has nothing to take is left as it is. -/
theorem Session.taken_of_nil (hslot : s.slot id = .live c) (hwaiting : c.waiting = []) :
    s.taken id c = s := by
  have hsame : ({ c with waiting := [] } : Call) = c := by
    rw [← hwaiting]
  obtain ⟨hid, hget⟩ := List.getElem?_eq_some_iff.mp (getElem?_of_slot hslot)
  rw [Session.taken, hsame, Session.setSlot, ← hget, List.set_getElem_self]

theorem Session.timers_taken (hslot : s.slot id = .live c) :
    Scheduler.timers (s.taken id c) = Scheduler.timers s := by
  obtain ⟨hid, hget⟩ := List.getElem?_eq_some_iff.mp (getElem?_of_slot hslot)
  have hsame : slotWork (.live { c with waiting := [] }) = slotWork s.slots[id] := by
    rw [hget]
    rfl
  show ((s.slots.set id _).map slotWork).sum = (s.slots.map slotWork).sum
  rw [List.map_set, hsame, ← List.map_set, List.set_getElem_self]

/-- What a round makes of a call that waits, where the scope can be seen or a timer of a server has
fired: it comes to its result, or less is left to do. -/
theorem Session.Expects.round (hop : op.Joins id seeing) (scope : Scope) (h : s.Expects id seen r)
    (hcause : scope.Noticed s.moment ∨ ∃ slot ∈ s.slots, ∃ earlier due,
      slotAlarm earlier slot = some due ∧ Instant.fired due s.moment.now = true) :
    (∃ res s', (scope.guard op).round none (.racing (seeing seen)) s = (.ready res, s') ∧
      s.Concludes scope r res s') ∨
    ∃ seen' s', (scope.guard op).round none (.racing (seeing seen)) s =
        (.waiting (.racing (seeing seen')), s') ∧ s'.Expects id seen' r ∧
      ¬scope.Noticed s.moment ∧ s'.moment = s.moment ∧
      Scheduler.timers s' < Scheduler.timers s := by
  by_cases hnoticed : scope.Noticed s.moment
  · have hseen := Scope.seen?_of_fired (.racing (seeing seen)) hnoticed
    refine Or.inl ⟨_, s, ?_,
      concludes_of_triggered h.scripted (Scope.failure?_of_seen hseen)⟩
    simp only [Operation.round, Scope.guard_turn_of_seen scope op hseen]
  · obtain ⟨slot, hslot, earlier, due, halarm, hfired⟩ := hcause.resolve_left hnoticed
    obtain ⟨c, hcall, hwaiting, hdue, -⟩ := h.call
    have hfirst : (scope.guard op).turn (.racing (seeing seen)) s =
        (.waiting (.racing (seeing seen)), s) := by
      have hevents : Single.absorb seen c.waiting = .waiting seen := by
        rw [hwaiting]
        rfl
      rw [Scope.guard_turn_of_unseen scope op (Scope.unseen_racing hnoticed)]
      show scope.passOn (op.turn (seeing seen) s) = _
      rw [hop.waits hcall hevents, taken_of_nil hcall hwaiting]
      rfl
    have hround : (scope.guard op).round none (.racing (seeing seen)) s =
        (scope.guard op).turn (.racing (seeing seen)) s.settle := by
      simp only [Operation.round, hfirst, Operation.isOver, Option.any_none]
      rfl
    obtain ⟨hdue', hrest⟩ := hdue.advance (h.scripted.live hcall) s.moment.now
    have hslot' := slot_settle_live hcall
    have hsettled := hop.turn scope (g := .racing (seeing seen)) rfl h.scripted.settle hslot' hdue'
    have hwork := timers_settle_lt h.scripted h.begun hslot halarm hfired
    rw [hround]
    generalize (scope.guard op).turn (.racing (seeing seen)) s.settle = turned at hsettled
    cases hsettled with
    | ends hconcludes =>
        refine Or.inl ⟨_, _, rfl, hconcludes.of_later fun d _ => ?_⟩
        rw [moment_settle]
        exact Nat.le_max_left _ _
    | waits _ hleft =>
        refine Or.inr ⟨_, _, rfl, expects_taken h.scripted.settle s.begun_settle hslot' hleft hrest,
          hnoticed, s.moment_settle, ?_⟩
        rw [timers_taken hslot']
        exact hwork

/-- A call that a client waits for is due to go on: the deadline comes, or a timer of a server,
whichever is first. -/
theorem Session.Expects.due (h : s.Expects id seen r) (deadline : Option Instant) :
    ∃ due, Instant.earliest deadline (Scheduler.alarm s) = some due ∧
      (deadline = some due ∨ ∃ slot ∈ s.slots, slotAlarm s.moment.now slot = some due) ∧
      ∀ d, deadline = some d → due ≤ d := by
  obtain ⟨c, hslot, -, -, due', hdue'⟩ := h.call
  rcases s.alarm_cases with ⟨-, hslots⟩ | ⟨first, hsome, hservers⟩
  · have hcall := hslots id
    rw [hslot] at hcall
    exact absurd ((hdue' s.moment.now).symm.trans hcall) (Option.some_ne_none _)
  · rcases Instant.earliest_cases deadline (Scheduler.alarm s) with
      ⟨-, -, hnone⟩ | ⟨due, hearliest, hcause, hfirst⟩
    · rw [hnone] at hsome
      cases hsome
    · refine ⟨due, hearliest, hcause.imp_right fun hdue => ?_, hfirst⟩
      rw [hsome] at hdue
      cases hdue
      exact hservers

/-- **The clock jumps to what is due first**, and not past the deadline's timer. -/
theorem Session.Expects.jump (hop : op.Joins id seeing) (h : s.Expects id seen r)
    (hunnoticed : ¬scope.Noticed s.moment) :
    ∃ s₁, (scope.guard op).jump none (.racing (seeing seen)) s = (true, s₁) ∧
      s₁.Expects id seen r ∧
      (scope.Noticed s₁.moment ∨ ∃ slot ∈ s₁.slots, ∃ earlier due,
        slotAlarm earlier slot = some due ∧ Instant.fired due s₁.moment.now = true) ∧
      (∀ d, scope.deadline = some d →
        s₁.moment.now.millis ≤ max s.moment.now.millis d.tick) ∧
      Scheduler.timers s₁ = Scheduler.timers s := by
  obtain ⟨due, hearliest, hcause, hfirst⟩ := h.due scope.deadline
  have halarm : (scope.guard op).alarm (.racing (seeing seen)) s = scope.deadline := by
    have hsignal : scope.isCancelled (Timeline.moment s) = false :=
      Bool.eq_false_iff.mpr (not_or.mp hunnoticed).1
    simp only [Scope.guard, hsignal, hop.alarm]
    cases scope.deadline <;> rfl
  have hjump : (scope.guard op).jump none (.racing (seeing seen)) s =
      (true, { s with moment := { s.moment with now := s.moment.now.jumpTo due } }) := by
    simp only [Operation.jump, halarm, hearliest]
    rfl
  have hfired : Instant.fired due (s.moment.now.jumpTo due) = true :=
    Instant.fired_jumpTo s.moment.now due
  generalize hmoved : ({ s with moment := { s.moment with now := s.moment.now.jumpTo due } }
    : Session) = s₁ at hjump
  have hnow : s₁.moment.now = s.moment.now.jumpTo due := by rw [← hmoved]
  have hslots : s₁.slots = s.slots := by rw [← hmoved]
  refine ⟨s₁, hjump, ?_, ?_, ?_, ?_⟩
  · rw [← hmoved]
    exact h.pass _
  · rw [hnow, hslots]
    rcases hcause with hdeadline | ⟨slot, hmem, hdue⟩
    · refine Or.inl (Or.inr ?_)
      rw [Scope.timerFired, hdeadline, hnow]
      exact hfired
    · exact Or.inr ⟨slot, hmem, s.moment.now, due, hdue, hfired⟩
  · intro d hd
    have htick := Instant.tick_mono (hfirst d hd)
    rw [hnow, Instant.millis_jumpTo]
    omega
  · rw [← hmoved]
    rfl

/-- **A wait comes to an end**, at the latest when all timers have fired. -/
theorem Session.Expects.answers (hop : op.Joins id seeing) {fuel : Nat}
    (h : s.Expects id seen r) (hunnoticed : ¬scope.Noticed s.moment)
    (hfuel : Scheduler.timers s < fuel) :
    ∃ res s', (scope.guard op).wait none fuel (.racing (seeing seen)) s = (.answered res, s') ∧
      s.Concludes scope r res s' := by
  induction fuel generalizing s seen with
  | zero => exact absurd hfuel (Nat.not_lt_zero _)
  | succ fuel ih =>
      obtain ⟨s₁, hjump, hexpects, hcause, hmillis, hwork⟩ := h.jump hop hunnoticed
      rcases hexpects.round hop scope hcause with
        ⟨res, s', hends, hconcludes⟩ | ⟨seen', s', hwaits, hexpects', hunseen, hmoment, hless⟩
      · refine ⟨res, s', ?_, hconcludes.of_later hmillis⟩
        simp only [Operation.wait, hjump, hends]
      · rw [← hmoment] at hunseen
        obtain ⟨res, s'', hrun, hconcludes⟩ := ih hexpects' hunseen (by omega)
        refine ⟨res, s'', ?_, hconcludes.of_later ?_⟩
        · simp only [Operation.wait, hjump, hwaits, hrun]
        · rw [hmoment]
          exact hmillis

/-- A run whose first turn waits for a call that is there when the servers have gone on. -/
theorem Session.run_answers (hop : op.Joins id seeing) {st : σ}
    (hfirst : (scope.guard op).turn (.fresh st) s = (.waiting (.racing (seeing seen)), s₁))
    (hmoment : s₁.moment = s.moment) (hscripted : s₁.Scripted) {now : Instant}
    (hslot : s₁.settle.slot id = .live (c.advance now)) (hpeer : c.peer.Scripted)
    (hdue : c.Due seen r) :
    ∃ res s', s.run (scope.guard op) (.fresh st) = (.answered res, s') ∧
      s.Concludes scope r res s' := by
  have hsettled : s₁.settle.moment = s.moment := s₁.moment_settle.trans hmoment
  have hearlier : ∀ d, scope.deadline = some d →
      s₁.settle.moment.now.millis ≤ max s.moment.now.millis d.tick := by
    intro d _
    rw [hsettled]
    exact Nat.le_max_left _ _
  obtain ⟨hdue', hrest⟩ := hdue.advance hpeer now
  have hsecond := hop.turn scope (g := .racing (seeing seen)) rfl hscripted.settle hslot hdue'
  have hround : (scope.guard op).round none (.fresh st) s =
      (scope.guard op).turn (.racing (seeing seen)) s₁.settle := by
    simp only [Operation.round, hfirst, Operation.isOver, Option.any_none]
    rfl
  simp only [Session.run, Operation.run, hround]
  generalize (scope.guard op).turn (.racing (seeing seen)) s₁.settle = turned at hsecond
  cases hsecond with
  | ends hconcludes => exact ⟨_, _, rfl, hconcludes.of_later hearlier⟩
  | waits hunnoticed hleft =>
      have hexpects := expects_taken hscripted.settle s₁.begun_settle hslot hleft hrest
      obtain ⟨res, s', hrun, hconcludes⟩ :=
        hexpects.answers hop hunnoticed (Nat.lt_add_of_pos_left (Nat.zero_lt_succ 1))
      exact ⟨res, s', hrun, hconcludes.of_later hearlier⟩

end Joined

/-! ## Runs -/

/-- **A call with one request and one response is answered.** -/
theorem Session.run_unary (scope : Scope) {spec : CallSpec} (hs : s.Scripted)
    (hpeer : (s.accept spec).1.peer.Scripted) (hdue : (s.accept spec).1.Due .unopened r) :
    ∃ res s', s.run (scope.guard unaryOperation) (.fresh (.unsent spec)) = (.answered res, s') ∧
      s.Concludes scope r res s' := by
  cases hscope : scope.failure? s.moment with
  | some own =>
      exact ⟨_, s, Operation.run_guard_of_triggered _ _ hscope, concludes_of_triggered hs hscope⟩
  | none =>
      have hfirst : (scope.guard unaryOperation).turn (.fresh (.unsent spec)) s =
          (.waiting (.racing (.sent (s.begin spec).1 .unopened)), (s.begin spec).2) := by
        rw [Operation.guard_turn_of_untriggered _ hscope]
        rfl
      exact Session.run_answers (unaryOperation_joins _) hfirst rfl (hs.begin hpeer)
        (s.slot_settle_begin spec) hpeer hdue

/-- **A call that runs by itself is joined.** -/
theorem Session.run_join (scope : Scope) (hs : s.Scripted) (hslot : s.slot id = .live c)
    (hdue : c.Due .unopened r) :
    ∃ res s', s.run (scope.guard (joinOperation id)) (.fresh .unopened) = (.answered res, s') ∧
      s.Concludes scope r res s' := by
  have hpeer := hs.live hslot
  have hfirst := (joinOperation_joins id).turn scope (g := .fresh .unopened) rfl hs hslot hdue
  rcases hturn : (scope.guard (joinOperation id)).turn (.fresh .unopened) s with ⟨t, s₁⟩
  rw [hturn] at hfirst
  cases hfirst with
  | ends hconcludes =>
      refine ⟨_, _, ?_, hconcludes⟩
      simp only [Session.run, Operation.run, Operation.round, hturn]
  | waits _ hleft =>
      exact Session.run_answers (joinOperation_joins id) hturn rfl (hs.taken hslot)
        (slot_settle_live (slot_taken hslot)) hpeer hleft

/-- **So is one that has waited in its queue** until all requests were there. -/
theorem Session.run_join_queued (scope : Scope) {P : Except Status SingleResponse → Prop}
    {spec : CallSpec} {requests : List Request} (hs : s.Scripted)
    (hslot : s.slot id = .queued spec requests true)
    (hresult : ∀ s₁ : Session, s₁.server = s.server → ∃ r, P r ∧
      Single.absorb .unopened (s₁.reach spec).1.outstanding = .ready r) :
    ∃ r res s', P r ∧
      s.run (scope.guard (joinOperation id)) (.fresh .unopened) = (.answered res, s') ∧
      s.Concludes scope r res s' := by
  cases hscope : scope.failure? s.moment with
  | some own =>
      obtain ⟨r, hr, -⟩ := hresult s rfl
      exact ⟨r, _, s, hr, Operation.run_guard_of_triggered _ _ hscope,
        concludes_of_triggered hs hscope⟩
  | none =>
      have hfirst : (scope.guard (joinOperation id)).turn (.fresh .unopened) s =
          (.waiting (.racing .unopened), s) := by
        rw [Operation.guard_turn_of_untriggered _ hscope]
        show scope.passOn ((joinOperation id).turn .unopened s) = _
        simp only [joinOperation, Single.takeAll, hslot]
        rfl
      obtain ⟨s₁, hserver, -, hsettled⟩ := s.slot_settle id
      have hscripted := hs id
      rw [hslot, ← hserver] at hscripted
      obtain ⟨c, hbegun, hpeer, hsame, hover⟩ := begun_of_queued hscripted
      rw [hslot, hbegun] at hsettled
      obtain ⟨r, hr, habsorb⟩ := hresult s₁ hserver
      rw [← hsame] at habsorb
      obtain ⟨res, s', hrun, hconcludes⟩ := Session.run_answers (joinOperation_joins id) hfirst rfl
        hs hsettled hpeer ⟨habsorb, hover rfl⟩
      exact ⟨r, res, s', hr, hrun, hconcludes⟩

end RpcConformance
