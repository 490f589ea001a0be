import RpcConformance.Proofs.ClientFrame

/-!
# Joining a call that runs by itself

A client that sends many requests joins its call at the end.  The call is given up before that only
in a triggered scope, and a guard looks at the scope before it joins the call.  So the status of a
call that was stopped from outside, which a join has ready, is never the result: with any other
status in its place every run gives the same.

Two operations with the same turns give the same answers.  Here they have the same turns only where
the call is there, so the comparison carries a property of the session that every turn and every
tick keeps.

## Main results

* `Operation.Agree.run` — operations that agree where a property holds, and keep it, give the same.
* `ClientStream.closeAndReceiveOr_stoppedCall` — the client's own function is the one with the
  client's own status of a stopped call.
* `ClientStream.closeAndReceiveOr_eq` — the status of a stopped call does not matter.
-/

namespace RpcConformance

/-! ## Operations that agree -/

namespace Operation

variable {σ α : Type} {op op' : Operation Session σ α} {P : Session → Prop}

/-- Two operations have the same turns where a property of the session holds, and while they wait
it goes on to hold. -/
structure Agree (P : Session → Prop) (op op' : Operation Session σ α) : Prop where
  turn : ∀ st s, P s → op.turn st s = op'.turn st s
  alarm : op.alarm = op'.alarm
  waits : ∀ {st st' s s'}, P s → op.turn st s = (.waiting st', s') → P s'
  tick : ∀ (t : Tick) s, P s → P (t.act s)

theorem Agree.round (h : op.Agree P op') (st : σ) {s : Session} (hs : P s) :
    op.round none st s = op'.round none st s ∧
      ∀ st' s', op.round none st s = (.waiting st', s') → P s' := by
  have hfirst := h.turn st s hs
  rcases hturn : op.turn st s with ⟨a | st', s'⟩
  · rw [hturn] at hfirst
    simp only [Operation.round, hturn, ← hfirst]
    exact ⟨trivial, by rintro _ _ ⟨⟩⟩
  · rw [hturn] at hfirst
    have hsettled : P (Scheduler.settle s') := h.tick .settle s' (h.waits hs hturn)
    simp only [Operation.round, hturn, ← hfirst, isOver, Option.any_none]
    exact ⟨h.turn st' _ hsettled, fun st'' s'' hsecond => h.waits hsettled hsecond⟩

theorem Agree.jump (h : op.Agree P op') (st : σ) {s : Session} (hs : P s) :
    op.jump none st s = op'.jump none st s ∧ P (op.jump none st s).2 := by
  simp only [Operation.jump, h.alarm]
  cases Instant.earliest (op'.alarm st s) (Scheduler.alarm s) with
  | none => exact ⟨trivial, hs⟩
  | some due => exact ⟨trivial, h.tick (.jump due) s hs⟩

theorem Agree.wait (h : op.Agree P op') (fuel : Nat) (st : σ) {s : Session} (hs : P s) :
    op.wait none fuel st s = op'.wait none fuel st s := by
  induction fuel generalizing st s with
  | zero => rfl
  | succ fuel ih =>
      obtain ⟨hjump, hkept⟩ := h.jump st hs
      rcases hjumped : op.jump none st s with ⟨_ | _, s₁⟩
      · rw [hjumped] at hjump
        simp only [Operation.wait, hjumped, ← hjump]
      · rw [hjumped] at hjump hkept
        obtain ⟨hround, hwaits⟩ := h.round st hkept
        simp only [Operation.wait, hjumped, ← hjump, ← hround]
        rcases hrounded : op.round none st s₁ with ⟨a | st', s₂⟩
        · rfl
        · exact ih st' (hwaits st' s₂ hrounded)

/-- They give the same answers. -/
theorem Agree.run (h : op.Agree P op') (st : σ) {s : Session} (hs : P s) :
    s.run op st = s.run op' st := by
  obtain ⟨hround, hwaits⟩ := h.round st hs
  rcases hrounded : op.round none st s with ⟨a | st', s₁⟩
  · simp only [Session.run, Operation.run, ← hround, hrounded]
  · simp only [Session.run, Operation.run, ← hround, hrounded]
    exact h.wait _ st' (hwaits st' s₁ hrounded)

theorem Agree.guard {op op' : Operation Session σ (Except Status α)} (h : op.Agree P op')
    (scope : Scope) : (scope.guard op).Agree P (scope.guard op') where
  turn g s hs := by
    cases hseen : scope.seen? g (Timeline.moment s) with
    | some own =>
        rw [Scope.guard_turn_of_seen scope op hseen, Scope.guard_turn_of_seen scope op' hseen]
    | none =>
        rw [Scope.guard_turn_of_unseen scope op hseen, Scope.guard_turn_of_unseen scope op' hseen,
          h.turn g.inner s hs]
  alarm := by
    funext g s
    simp only [Scope.guard, h.alarm]
  waits hs hturn := h.waits hs (Scope.guard_turn_waiting scope op hturn).2.1
  tick := h.tick

end Operation

/-! ## Joining -/

/-- Joins a call, with another result for a call that was stopped from outside. -/
def joinOperationOr (stopped : Status) (id : CallId) :
    Operation Session Single (Except Status SingleResponse) where
  turn st s :=
    match s.slot id with
    | .vacant => (.ready (.error stopped), s)
    | _ => (joinOperation id).turn st s
  alarm := (joinOperation id).alarm

/-- It is what it was with the status of a stopped call. -/
theorem joinOperationOr_stoppedCall (id : CallId) :
    joinOperationOr stoppedCall id = joinOperation id := by
  have hturn : (joinOperationOr stoppedCall id).turn = (joinOperation id).turn := by
    funext st s
    cases hslot : s.slot id <;> simp only [joinOperationOr, joinOperation, hslot]
  show Operation.mk (joinOperationOr stoppedCall id).turn (joinOperation id).alarm =
    Operation.mk (joinOperation id).turn (joinOperation id).alarm
  rw [hturn]

section Joining

variable {s s' : Session} {id : CallId}

/-- Taking the events of a call does not give it up. -/
theorem Single.slot_takeAll (st : Single) (h : s.slot id ≠ .vacant) :
    (st.takeAll id s).2.slot id ≠ .vacant := by
  have hid := Session.lt_length_of_slot h
  unfold takeAll
  split
  · rw [Session.slot_setSlot_self _ hid]
    exact nofun
  · exact h

theorem Session.slot_settle_ne_vacant (h : s.slot id ≠ .vacant) : s.settle.slot id ≠ .vacant := by
  obtain ⟨s₁, -, -, hslot⟩ := s.slot_settle id
  rw [hslot]
  cases hbefore : s.slot id with
  | vacant => exact absurd hbefore h
  | queued spec requests closed =>
      rw [begun_queued, advanceSlot]
      exact Slot.noConfusion
  | live c => exact Slot.noConfusion

/-- Neither do the other calls and the clock. -/
theorem Session.slot_tick (t : Operation.Tick) (h : s.slot id ≠ .vacant) :
    (t.act s : Session).slot id ≠ .vacant := by
  have hsteps : s.Steps (fun _ => False) (fun _ => False) (t.act s) := s.steps_tick t
  exact hsteps.slot (P := fun slot _ => slot ≠ .vacant) (lt_length_of_slot h) not_false not_false
    (fun _ _ => slot_settle_ne_vacant) (fun _ _ _ _ h => h) h

theorem Session.slot_close (s : Session) (id' : CallId) (h : s.slot id ≠ .vacant) :
    (s.close id').slot id ≠ .vacant := by
  unfold close
  by_cases hsame : id' = id
  · subst hsame
    have hid := lt_length_of_slot h
    cases hslot : s.slot id' with
    | vacant => exact absurd hslot h
    | queued | live =>
        simp only [slot_setSlot_self _ hid]
        exact nofun
  · split
    · rw [slot_setSlot_of_ne s _ hsame]
      exact h
    · rw [slot_setSlot_of_ne s _ hsame]
      exact h
    · exact h

/-- A call that is there is joined in the same way whatever the result of a stopped one is. -/
theorem joinOperationOr_agree (stopped : Status) (id : CallId) :
    (joinOperationOr stopped id).Agree (fun s => s.slot id ≠ .vacant) (joinOperation id) where
  turn st s hs := by
    cases hslot : s.slot id with
    | vacant => exact absurd hslot hs
    | queued | live => simp only [joinOperationOr, hslot]
  alarm := rfl
  waits := by
    intro st st' s s' hs hturn
    have htaken := st.slot_takeAll hs
    cases hslot : s.slot id with
    | vacant => exact absurd hslot hs
    | queued | live =>
        simp only [joinOperationOr, joinOperation, hslot] at hturn
        rcases htake : st.takeAll id s with ⟨r | seen, s₁⟩ <;> rw [htake] at hturn htaken <;>
          cases hturn
        exact htaken
  tick t s hs := Session.slot_tick t hs

end Joining

namespace ClientStream

/-- The session in which a stream of requests joins its call. -/
def closing (st : ClientStream) (s : Session) : Session :=
  match st.sender with
  | some id => s.close id
  | none => s

theorem moment_closing (st : ClientStream) (s : Session) : (st.closing s).moment = s.moment := by
  unfold closing
  split
  · exact s.moment_close _
  · rfl

theorem slot_closing (st : ClientStream) {s : Session} {id : CallId} (h : s.slot id ≠ .vacant) :
    (st.closing s).slot id ≠ .vacant := by
  unfold closing
  split
  · exact s.slot_close _ h
  · exact h

/-- What a stream of requests gives at its end: what joining its call gives. -/
theorem closeAndReceive_eq {st : ClientStream} {s s' : Session}
    {r : Outcome (Except Status SingleResponse)}
    (h : (st.closing s).run (st.scope.guard (joinOperation st.call)) (.fresh .unopened) = (r, s')) :
    st.closeAndReceive s = (r, s'.abandon st.call) := by
  cases hsender : st.sender <;> simp only [closing, hsender] at h <;>
    simp only [closeAndReceive, hsender, h]

/-- Closes the sending side and waits for the response, with another result for a call that was
stopped from outside. -/
def closeAndReceiveOr (stopped : Status) (st : ClientStream) (s : Session) :
    Outcome (Except Status SingleResponse) × Session :=
  let (r, s) := (st.closing s).run (st.scope.guard (joinOperationOr stopped st.call))
    (.fresh .unopened)
  (r, s.abandon st.call)

theorem closeAndReceiveOr_stoppedCall (st : ClientStream) (s : Session) :
    st.closeAndReceiveOr stoppedCall s = st.closeAndReceive s := by
  rcases hrun : (st.closing s).run (st.scope.guard (joinOperation st.call)) (.fresh .unopened)
    with ⟨r, s'⟩
  rw [closeAndReceive_eq hrun, closeAndReceiveOr, joinOperationOr_stoppedCall, hrun]

/-- **The status of a stopped call does not matter** where a call has been given up in a triggered
scope only. -/
theorem closeAndReceiveOr_eq {st : ClientStream} {s : Session}
    (h : st.scope.failure? s.moment = none → s.slot st.call ≠ .vacant) (stopped : Status) :
    st.closeAndReceiveOr stopped s = st.closeAndReceive s := by
  have hjoin : (st.closing s).run (st.scope.guard (joinOperationOr stopped st.call))
      (.fresh .unopened) =
        (st.closing s).run (st.scope.guard (joinOperation st.call)) (.fresh .unopened) := by
    cases hscope : st.scope.failure? s.moment with
    | some own =>
        rw [← st.moment_closing s] at hscope
        rw [Operation.run_guard_of_triggered _ _ hscope,
          Operation.run_guard_of_triggered _ _ hscope]
    | none =>
        exact ((joinOperationOr_agree stopped st.call).guard st.scope).run _
          (st.slot_closing (h hscope))
  rcases hrun : (st.closing s).run (st.scope.guard (joinOperation st.call)) (.fresh .unopened)
    with ⟨r, s'⟩
  rw [closeAndReceive_eq hrun, closeAndReceiveOr, hjoin, hrun]

end ClientStream

end RpcConformance
