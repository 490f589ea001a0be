import Mathlib.Data.List.GetD
import Mathlib.Logic.Relation
import RpcConformance.Client.Conversation
import RpcConformance.Proofs.GuardRace

/-!
# What a client can do to a call

A session moves in a few steps, whatever its client does: calls go on and begin where they were
queued, new ones are added, time passes and signals are given, and the client touches a call: it
sends a request or the end of the requests, gives the call up, or takes some of its events.  Only
calls that the client feeds get requests, and only its own are given up or read; both are
parameters of everything here.  So a call that is neither goes on by itself, and what the steps
keep of one call is kept by every history of the client.

## Main results

* `Session.Steps.evolves` — what may have become of each call.
* `Session.Steps.slot` — what has become of a call that the client leaves alone.
* `Operation.Tame.run` — a run of a tame operation moves the session by steps.
* `Operation.run_guard_of_second` — a guarded run that is done in one round.
-/

namespace RpcConformance

/-! ## One call -/

/-- One thing that a client does to a call: it takes events or gives the call up where the call
is its own, and it sends a request or closes its side where it feeds the call. -/
inductive SlotTouch (own feeds : Prop) : Slot → Slot → Prop
  | giveUp (h : own) (slot : Slot) : SlotTouch own feeds slot .vacant
  /-- The first events are taken. -/
  | take (h : own) (c : Call) (taken left : List Event) (hwaiting : c.waiting = taken ++ left) :
      SlotTouch own feeds (.live c) (.live { c with waiting := left })
  | push (h : feeds) (r : Request) (c : Call) : SlotTouch own feeds (.live c) (.live (c.push r))
  | close (h : feeds) (c : Call) : SlotTouch own feeds (.live c) (.live c.close)
  | queueRequest (h : feeds) (spec : CallSpec) (requests : List Request) (r : Request)
      (closed : Bool) (hroom : requests.length < Call.bufferSize) :
      SlotTouch own feeds (.queued spec requests closed) (.queued spec (requests ++ [r]) closed)
  | queueEnd (h : feeds) (spec : CallSpec) (requests : List Request) (closed : Bool) :
      SlotTouch own feeds (.queued spec requests closed) (.queued spec requests true)

theorem SlotTouch.rights {own feeds : Prop} {slot slot' : Slot}
    (h : SlotTouch own feeds slot slot') : own ∨ feeds := by
  cases h with
  | giveUp h => exact Or.inl h
  | take h => exact Or.inl h
  | push h => exact Or.inr h
  | close h => exact Or.inr h
  | queueRequest h => exact Or.inr h
  | queueEnd h => exact Or.inr h

/-- One thing that happens to a call on a given server. -/
inductive SlotStep (server : Backend) (own feeds : Prop) : Slot → Slot → Prop
  | goOn (now : Instant) (c : Call) : SlotStep server own feeds (.live c) (.live (c.advance now))
  | beginQueued (s : Session) (h : s.server = server) (spec : CallSpec)
      (requests : List Request) (closed : Bool) :
      SlotStep server own feeds (.queued spec requests closed)
        (s.beginQueued spec requests closed).1
  | touched {slot slot' : Slot} (h : SlotTouch own feeds slot slot') :
      SlotStep server own feeds slot slot'

/-- What may have become of a call. -/
def Slot.Evolves (server : Backend) (own feeds : Prop) : Slot → Slot → Prop :=
  Relation.ReflTransGen (SlotStep server own feeds)

/-- What every step keeps is kept. -/
theorem Slot.Evolves.induction {server : Backend} {own feeds : Prop} {P : Slot → Prop}
    {slot slot' : Slot} (keep : ∀ a b, SlotStep server own feeds a b → P a → P b)
    (h : Slot.Evolves server own feeds slot slot') (start : P slot) : P slot' := by
  induction h with
  | refl => exact start
  | tail _ hstep ih => exact keep _ _ hstep ih

/-! ## A session -/

/-- What may have become of a session whose client reads its own calls only and feeds given ones
only: the calls have gone on, others may have been added, and time has passed. -/
structure Session.Evolves (own feeds : CallId → Prop) (s s' : Session) : Prop where
  server : s'.server = s.server
  moment : s.moment.Precedes s'.moment
  length : s.slots.length ≤ s'.slots.length
  slot : ∀ id, id < s.slots.length →
    Slot.Evolves s.server (own id) (feeds id) (s.slot id) (s'.slot id)

variable {own feeds : CallId → Prop}

namespace Session

theorem Evolves.refl (s : Session) : s.Evolves own feeds s :=
  ⟨rfl, .refl _, Nat.le_refl _, fun _ _ => .refl⟩

theorem Evolves.trans {a b c : Session} (hab : a.Evolves own feeds b)
    (hbc : b.Evolves own feeds c) : a.Evolves own feeds c := by
  refine ⟨hbc.server.trans hab.server, hab.moment.trans hbc.moment,
    Nat.le_trans hab.length hbc.length, ?_⟩
  intro id hid
  have hlater := hbc.slot id (Nat.lt_of_lt_of_le hid hab.length)
  rw [hab.server] at hlater
  exact Relation.ReflTransGen.trans (hab.slot id hid) hlater

/-- Calls may be added, and time may pass. -/
theorem Evolves.of_append {s s' : Session} {more : List Slot} (hserver : s'.server = s.server)
    (hmoment : s.moment.Precedes s'.moment) (hslots : s'.slots = s.slots ++ more) :
    s.Evolves own feeds s' := by
  refine ⟨hserver, hmoment, ?_, ?_⟩
  · rw [hslots, List.length_append]
    omega
  · intro id hid
    rw [Session.slot, Session.slot, hslots, List.getD_append _ _ _ _ hid]
    exact .refl

/-! ### Slots -/

theorem slot_setSlot_self {s : Session} {id : CallId} (slot : Slot) (h : id < s.slots.length) :
    (s.setSlot id slot).slot id = slot := by
  rw [Session.slot, setSlot, List.getD_eq_getElem?_getD, List.getElem?_set_self h]
  rfl

theorem slot_setSlot_of_ne (s : Session) {id id' : CallId} (slot : Slot) (h : id ≠ id') :
    (s.setSlot id slot).slot id' = s.slot id' := by
  rw [Session.slot, setSlot, List.getD_eq_getElem?_getD, List.getElem?_set_ne h,
    ← List.getD_eq_getElem?_getD, ← Session.slot]

theorem slot_of_length_le {s : Session} {id : CallId} (h : s.slots.length ≤ id) :
    s.slot id = .vacant := by
  rw [slot, List.getD_eq_default _ _ h]

theorem lt_length_of_slot {s : Session} {id : CallId} (h : s.slot id ≠ .vacant) :
    id < s.slots.length := by
  by_contra hout
  exact h (slot_of_length_le (Nat.not_lt.mp hout))

theorem lt_length_of_live {s : Session} {id : CallId} {c : Call} (h : s.slot id = .live c) :
    id < s.slots.length := by
  refine lt_length_of_slot ?_
  rw [h]
  exact nofun

/-- A step of one call leaves all others alone. -/
theorem evolves_setSlot {s : Session} {id : CallId} {slot : Slot}
    (h : SlotStep s.server (own id) (feeds id) (s.slot id) slot) :
    s.Evolves own feeds (s.setSlot id slot) := by
  refine ⟨rfl, .refl _, ?_, ?_⟩
  · show s.slots.length ≤ (s.slots.set id slot).length
    exact Nat.le_of_eq List.length_set.symm
  · intro id' hid
    by_cases hsame : id = id'
    · subst hsame
      rw [slot_setSlot_self slot hid]
      exact Relation.ReflTransGen.single h
    · rw [slot_setSlot_of_ne s slot hsame]
      exact .refl

/-- A call that has begun is the last one, and nothing has come of it. -/
theorem slot_begin (s : Session) (spec : CallSpec) :
    (s.begin spec).2.slot (s.begin spec).1 = .live (s.accept spec).1 := by
  show (s.slots ++ [Slot.live (s.accept spec).1]).getD s.slots.length .vacant = _
  rw [List.getD_append_right _ _ _ _ (Nat.le_refl _), Nat.sub_self]
  rfl

theorem lt_length_begin (s : Session) (spec : CallSpec) :
    (s.begin spec).1 < (s.begin spec).2.slots.length := by
  show s.slots.length < (s.slots ++ [Slot.live (s.accept spec).1]).length
  rw [List.length_append, List.length_singleton]
  omega

theorem take_live {s : Session} {id : CallId} {c : Call} {e : Event} {rest : List Event}
    (hslot : s.slot id = .live c) (hwaiting : c.waiting = e :: rest) :
    s.take id = some (e, s.setSlot id (.live { c with waiting := rest })) := by
  simp only [take, hslot, hwaiting]

theorem take_of_nil {s : Session} {id : CallId} {c : Call} (hslot : s.slot id = .live c)
    (hwaiting : c.waiting = []) : s.take id = none := by
  simp only [take, hslot, hwaiting]

theorem lt_length_of_take {s s' : Session} {id : CallId} {e : Event}
    (h : s.take id = some (e, s')) : id < s'.slots.length := by
  have hid : id < s.slots.length := by
    by_contra hout
    rw [take, slot_of_length_le (Nat.not_lt.mp hout)] at h
    cases h
  unfold take at h
  split at h
  · split at h <;> cases h
    exact Nat.lt_of_lt_of_eq hid List.length_set.symm
  · cases h

/-! ### Settling -/

theorem reach_session (s : Session) (spec : CallSpec) :
    (s.reach spec).2.server = s.server ∧ (s.reach spec).2.moment = s.moment := by
  unfold reach
  split <;> exact ⟨rfl, rfl⟩

theorem reach_connected (s : Session) {spec : CallSpec} (h : spec.connected = true) :
    s.reach spec = s.accept spec := by
  rw [reach, if_pos h]

/-- Where queued calls begin, the server is the same and no time passes. -/
theorem beginAll_session (slots : List Slot) (s : Session) :
    (beginAll slots s).2.server = s.server ∧ (beginAll slots s).2.moment = s.moment := by
  induction slots generalizing s with
  | nil => exact ⟨rfl, rfl⟩
  | cons slot rest ih =>
      cases slot with
      | vacant => exact ih s
      | live c => exact ih s
      | queued spec requests closed =>
          obtain ⟨hserver, hmoment⟩ := s.reach_session spec
          obtain ⟨hserver', hmoment'⟩ := ih (s.beginQueued spec requests closed).2
          exact ⟨hserver'.trans hserver, hmoment'.trans hmoment⟩

theorem length_beginAll (slots : List Slot) (s : Session) :
    (beginAll slots s).1.length = slots.length := by
  induction slots generalizing s with
  | nil => rfl
  | cons slot rest ih =>
      cases slot with
      | vacant => exact congrArg Nat.succ (ih s)
      | live c => exact congrArg Nat.succ (ih s)
      | queued spec requests closed =>
          exact congrArg Nat.succ (ih (s.beginQueued spec requests closed).2)

/-- A queued call begins, and every other slot is left alone. -/
def begun (s : Session) : Slot → Slot
  | .queued spec requests closed => (s.beginQueued spec requests closed).1
  | slot => slot

theorem begun_queued (s : Session) (spec : CallSpec) (requests : List Request) (closed : Bool) :
    s.begun (.queued spec requests closed) =
      .live (if closed then (requests.foldl (fun c r => c.push r) (s.reach spec).1).close
        else requests.foldl (fun c r => c.push r) (s.reach spec).1) := rfl

theorem getD_beginAll (slots : List Slot) (s : Session) (id : CallId) :
    ∃ s₁ : Session, s₁.server = s.server ∧ s₁.moment = s.moment ∧
      (beginAll slots s).1.getD id .vacant = s₁.begun (slots.getD id .vacant) := by
  induction slots generalizing s id with
  | nil => exact ⟨s, rfl, rfl, rfl⟩
  | cons slot rest ih =>
      cases id with
      | zero => cases slot <;> exact ⟨s, rfl, rfl, rfl⟩
      | succ id =>
          cases slot with
          | vacant => exact ih s id
          | live c => exact ih s id
          | queued spec requests closed =>
              obtain ⟨hserver, hmoment⟩ := s.reach_session spec
              obtain ⟨s₁, hserver', hmoment', hslot⟩ :=
                ih (s.beginQueued spec requests closed).2 id
              exact ⟨s₁, hserver'.trans hserver, hmoment'.trans hmoment, hslot⟩

theorem getD_map_advanceSlot (now : Instant) (slots : List Slot) (id : CallId) :
    (slots.map (advanceSlot now)).getD id .vacant = advanceSlot now (slots.getD id .vacant) :=
  List.getD_map slots Slot.vacant (advanceSlot now)

/-- A settled call has begun, and has gone on as far as it can. -/
theorem slot_settle (s : Session) (id : CallId) :
    ∃ s₁ : Session, s₁.server = s.server ∧ s₁.moment = s.moment ∧
      s.settle.slot id = advanceSlot s.moment.now (s₁.begun (s.slot id)) := by
  obtain ⟨s₁, hserver, hsame, hslot⟩ := getD_beginAll s.slots s id
  refine ⟨s₁, hserver, hsame, ?_⟩
  have hmoment := (beginAll_session s.slots s).2
  show ((beginAll s.slots s).1.map
    (advanceSlot (beginAll s.slots s).2.moment.now)).getD id .vacant = _
  rw [getD_map_advanceSlot, hslot, hmoment]
  rfl

theorem slot_settle_live {s : Session} {id : CallId} {c : Call} (h : s.slot id = .live c) :
    s.settle.slot id = .live (c.advance s.moment.now) := by
  obtain ⟨s₁, _, _, hslot⟩ := s.slot_settle id
  rw [hslot, h]
  rfl

/-- What a client finds of a call when it first waits for it. -/
theorem slot_settle_begin (s : Session) (spec : CallSpec) :
    (s.begin spec).2.settle.slot (s.begin spec).1 =
      .live ((s.accept spec).1.advance s.moment.now) :=
  slot_settle_live (s.slot_begin spec)

theorem moment_settle (s : Session) : s.settle.moment = s.moment :=
  (beginAll_session s.slots s).2

theorem length_settle (s : Session) : s.settle.slots.length = s.slots.length := by
  show ((beginAll s.slots s).1.map _).length = s.slots.length
  rw [List.length_map, length_beginAll]

theorem evolves_settle (s : Session) : s.Evolves own feeds s.settle := by
  refine ⟨(beginAll_session s.slots s).1, ?_, Nat.le_of_eq s.length_settle.symm, ?_⟩
  · rw [moment_settle]
    exact .refl _
  · intro id _
    obtain ⟨s₁, hserver, _, hslot⟩ := s.slot_settle id
    rw [hslot]
    cases s.slot id with
    | vacant => exact .refl
    | live c => exact Relation.ReflTransGen.single (.goOn s.moment.now c)
    | queued spec requests closed =>
        have hbegin : Slot.Evolves s.server (own id) (feeds id) (.queued spec requests closed)
            (s₁.beginQueued spec requests closed).1 :=
          Relation.ReflTransGen.single (.beginQueued s₁ hserver spec requests closed)
        exact hbegin.tail (.goOn s.moment.now _)

/-! ### Steps -/

/-- One thing that happens to a session. -/
inductive Step (own feeds : CallId → Prop) : Session → Session → Prop
  | settle (s : Session) : Step own feeds s s.settle
  /-- Time passes, or a signal is given. -/
  | pass (s : Session) {m : Moment} (h : s.moment.Precedes m) :
      Step own feeds s { s with moment := m }
  | newScope (s : Session) (deadline : Option Instant) : Step own feeds s (s.newScope deadline).2
  | begin (s : Session) (spec : CallSpec) : Step own feeds s (s.begin spec).2
  | enqueue (s : Session) (spec : CallSpec) : Step own feeds s (s.enqueue spec).2
  | touch {s : Session} {id : CallId} {slot : Slot}
      (h : SlotTouch (own id) (feeds id) (s.slot id) slot) : Step own feeds s (s.setSlot id slot)

/-- What a client makes of a session. -/
def Steps (own feeds : CallId → Prop) : Session → Session → Prop :=
  Relation.ReflTransGen (Step own feeds)

theorem Step.evolves {s s' : Session} (h : Step own feeds s s') : s.Evolves own feeds s' := by
  cases h with
  | settle => exact evolves_settle s
  | pass h => exact .of_append rfl h (List.append_nil _).symm
  | newScope deadline => exact .of_append rfl (.refl _) (List.append_nil _).symm
  | begin spec => exact .of_append rfl (.refl _) rfl
  | enqueue spec => exact .of_append rfl (.refl _) rfl
  | touch h => exact evolves_setSlot (.touched h)

/-- **What may have become of each call.** -/
theorem Steps.evolves {s s' : Session} (h : s.Steps own feeds s') : s.Evolves own feeds s' := by
  induction h with
  | refl => exact .refl s
  | tail _ hstep ih => exact ih.trans hstep.evolves

/-- A call that the client neither reads nor feeds goes on with all others, or nothing becomes of
it. -/
theorem Step.slot {s s' : Session} {id : CallId} (h : Step own feeds s s')
    (hid : id < s.slots.length) (hown : ¬own id) (hfeeds : ¬feeds id) :
    s' = s.settle ∨ s'.slot id = s.slot id := by
  cases h with
  | settle => exact Or.inl rfl
  | pass h => exact Or.inr rfl
  | newScope deadline => exact Or.inr rfl
  | begin spec => exact Or.inr (List.getD_append _ _ _ _ hid)
  | enqueue spec => exact Or.inr (List.getD_append _ _ _ _ hid)
  | @touch id' slot h =>
      by_cases hsame : id' = id
      · subst hsame
        rcases h.rights with h | h
        · exact absurd h hown
        · exact absurd h hfeeds
      · exact Or.inr (slot_setSlot_of_ne s slot hsame)

/-- What becomes of a call that the client leaves alone: a property of the call and of the moment
that settling and the passing of time keep. -/
theorem Steps.slot {P : Slot → Moment → Prop} {s s' : Session} {id : CallId}
    (h : s.Steps own feeds s') (hid : id < s.slots.length) (hown : ¬own id) (hfeeds : ¬feeds id)
    (hsettle : ∀ s₁ : Session, s₁.server = s.server → P (s₁.slot id) s₁.moment →
      P (s₁.settle.slot id) s₁.moment)
    (hpass : ∀ slot {m m' : Moment}, m.Precedes m' → P slot m → P slot m')
    (hP : P (s.slot id) s.moment) : P (s'.slot id) s'.moment := by
  induction h with
  | refl => exact hP
  | @tail s₁ s₂ hsteps hstep ih =>
      have hbefore : s.Evolves own feeds s₁ := Steps.evolves hsteps
      have hid₁ := Nat.lt_of_lt_of_le hid hbefore.length
      rcases hstep.slot hid₁ hown hfeeds with rfl | hslot
      · rw [moment_settle]
        exact hsettle s₁ hbefore.server ih
      · rw [hslot]
        exact hpass _ hstep.evolves.moment ih

theorem steps_abandon (s : Session) {id : CallId} (hown : own id) :
    s.Steps own feeds (s.abandon id) :=
  .single (.touch (.giveUp hown _))

theorem steps_cancel (s : Session) (scope : Scope) : s.Steps own feeds (s.cancel scope) := by
  refine .single (.pass s ⟨Instant.le_refl _, fun t h => ?_⟩)
  show (scope.token :: s.moment.cancelled).contains t = true
  rw [List.contains_cons, show s.moment.cancelled.contains t = true from h, Bool.or_true]

theorem steps_delay (s : Session) : s.Steps own feeds s.delay :=
  .single (.pass s (Moment.precedes_of_le (s.moment.now.le_later s.lag)))

theorem steps_close (s : Session) {id : CallId} (hfeeds : feeds id) :
    s.Steps own feeds (s.close id) := by
  unfold close
  cases hslot : s.slot id with
  | vacant => exact .refl
  | queued spec requests closed =>
      refine .single (.touch ?_)
      rw [hslot]
      exact .queueEnd hfeeds spec requests closed
  | live c =>
      refine .single (.touch ?_)
      rw [hslot]
      exact .close hfeeds c

theorem moment_close (s : Session) (id : CallId) : (s.close id).moment = s.moment := by
  unfold close
  split <;> rfl

theorem server_close (s : Session) (id : CallId) : (s.close id).server = s.server := by
  unfold close
  split <;> rfl

theorem slot_close_queued {s : Session} {id : CallId} {spec : CallSpec} {requests : List Request}
    {closed : Bool} (h : s.slot id = .queued spec requests closed) :
    (s.close id).slot id = .queued spec requests true := by
  have hid : id < s.slots.length := lt_length_of_slot (by rw [h]; exact nofun)
  simp only [close, h]
  exact slot_setSlot_self _ hid

theorem slot_close_live {s : Session} {id : CallId} {c : Call} (h : s.slot id = .live c) :
    (s.close id).slot id = .live c.close := by
  simp only [close, h]
  exact slot_setSlot_self _ (lt_length_of_live h)

theorem steps_take {s s' : Session} {id : CallId} {e : Event} (hown : own id)
    (h : s.take id = some (e, s')) : s.Steps own feeds s' := by
  unfold take at h
  split at h
  · rename_i c hslot
    split at h
    · rename_i first rest hwaiting
      cases h
      refine .single (.touch ?_)
      rw [hslot]
      exact .take hown c [e] rest hwaiting
    · cases h
  · cases h

theorem steps_tick (t : Operation.Tick) (s : Session) : s.Steps own feeds (t.act s) := by
  cases t with
  | settle => exact .single (.settle s)
  | jump due => exact .single (.pass s (Moment.precedes_of_le (s.moment.now.le_jumpTo due)))

/-- The calls to come are the client's own. -/
def OwnsNew (own : CallId → Prop) (s : Session) : Prop := ∀ id, s.slots.length ≤ id → own id

theorem OwnsNew.steps {s s' : Session} (h : s.OwnsNew own) (hs : s.Steps own feeds s') :
    s'.OwnsNew own :=
  fun id hid => h id (Nat.le_trans hs.evolves.length hid)

/-- A call that has been made is none of those to come. -/
theorem ownsNew_of_made {s : Session} {id : CallId} (h : id < s.slots.length) :
    s.OwnsNew (· ≠ id) :=
  fun _ hid hsame => Nat.not_lt.mpr (hsame ▸ hid) h

end Session

/-! ## Operations of a client -/

namespace Operation

variable {σ α : Type} {inv : σ → Prop}

/-- An operation whose turns move the session by steps, from states that keep an invariant. -/
def Tame (own feeds : CallId → Prop) (inv : σ → Prop) (op : Operation Session σ α) : Prop :=
  ∀ st s, inv st → s.OwnsNew own →
    s.Steps own feeds (op.turn st s).2 ∧ ∀ st', (op.turn st s).1 = .waiting st' → inv st'

theorem Tame.guard {op : Operation Session σ (Except Status α)} (h : op.Tame own feeds inv)
    (scope : Scope) : (scope.guard op).Tame own feeds fun g => inv g.inner := by
  intro g s hinv hnew
  obtain ⟨hsteps, hkeeps⟩ := h g.inner s hinv hnew
  constructor
  · rcases scope.guard_turn_world op g s with hsame | hturn
    · rw [hsame]
      exact .refl
    · rw [hturn]
      exact hsteps
  · intro g' hg'
    rcases hturn : (scope.guard op).turn g s with ⟨t, s'⟩
    rw [hturn] at hg'
    dsimp only at hg'
    rw [hg'] at hturn
    refine hkeeps g'.inner ?_
    rw [(Scope.guard_turn_waiting scope op hturn).2.1]

theorem Tame.play {op : Operation Session σ α} (h : op.Tame own feeds inv) (st : σ)
    (s : Session) (hinv : inv st) (hnew : s.OwnsNew own) (beats : List (Beat Tick)) :
    s.Steps own feeds (op.play Tick.act st s beats).2 ∧
      ∀ st', (op.play Tick.act st s beats).1 = .waiting st' → inv st' := by
  induction beats using List.reverseRecOn with
  | nil =>
      refine ⟨.refl, ?_⟩
      intro st' hst
      cases hst
      exact hinv
  | append_singleton beats b ih =>
      rw [play_concat]
      rcases hbefore : op.play Tick.act st s beats with ⟨a | st', s'⟩ <;> rw [hbefore] at ih
      · exact ih
      · cases b with
        | event t => exact ⟨ih.1.trans (Session.steps_tick t s'), ih.2⟩
        | poll =>
            have hturn := h st' s' (ih.2 st' rfl) (hnew.steps ih.1)
            exact ⟨ih.1.trans hturn.1, hturn.2⟩

/-- **A run of a tame operation moves the session by steps.** -/
theorem Tame.run {op : Operation Session σ α} (h : op.Tame own feeds inv) (st : σ) {s : Session}
    (hinv : inv st) (hnew : s.OwnsNew own) : s.Steps own feeds (s.run op st).2 := by
  obtain ⟨beats, hrun⟩ := op.run_eq_play none 2 st s
  rw [Session.run, hrun]
  exact (h.play st s hinv hnew beats).1

/-! ### Guarded runs -/

section Guarded

variable (op : Operation Session σ (Except Status α)) (st : σ) {scope : Scope} {st' : σ}
  {s s' s'' : Session}

/-- A scope that is triggered on entry lets nothing happen. -/
theorem run_guard_of_triggered {own : Status} (h : scope.failure? s.moment = some own) :
    s.run (scope.guard op) (.fresh st) = (.answered (.error own), s) := by
  have hturn : (scope.guard op).turn (.fresh st) s = (.ready (.error own), s) :=
    Scope.guard_turn_of_seen scope op h
  simp only [Session.run, run, round, hturn]

theorem guard_turn_of_untriggered {g : Scope.Guarded σ}
    (h : scope.failure? s.moment = none) :
    (scope.guard op).turn g s = scope.passOn (op.turn g.inner s) :=
  Scope.guard_turn_of_unseen scope op (Scope.unseen_of_untriggered g h)

/-- While no time passes, a scope that has not been triggered leaves an answer alone. -/
theorem guard_turn_ready {g : Scope.Guarded σ} {r : Except Status α}
    (h : scope.failure? s.moment = none) (hturn : op.turn g.inner s = (.ready r, s'))
    (hmoment : s'.moment = s.moment) : (scope.guard op).turn g s = (.ready r, s') := by
  rw [guard_turn_of_untriggered op h, hturn]
  cases r with
  | ok a => rfl
  | error own =>
      have hend : scope.failure? (Timeline.moment s') = none := by
        show scope.failure? s'.moment = none
        rw [hmoment, h]
      show (Turn.ready (Except.error (scope.overrule (Timeline.moment s') own)), s') = _
      rw [Scope.overrule_of_untriggered own hend]

/-- An operation that answers at once, in a scope that has not been triggered, is done. -/
theorem run_guard_of_first {r : Except Status α} (h : scope.failure? s.moment = none)
    (hturn : op.turn st s = (.ready r, s')) (hmoment : s'.moment = s.moment) :
    s.run (scope.guard op) (.fresh st) = (.answered r, s') := by
  have hfirst : (scope.guard op).turn (.fresh st) s = (.ready r, s') :=
    guard_turn_ready op h hturn hmoment
  simp only [Session.run, run, round, hfirst]

/-- An operation that waits once and answers when the other calls have gone on, in a scope that
has not been triggered and while no time passes, is done in one round. -/
theorem run_guard_of_second {r : Except Status α} (h : scope.failure? s.moment = none)
    (hfirst : op.turn st s = (.waiting st', s')) (hmoment : s'.moment = s.moment)
    (hsecond : op.turn st' s'.settle = (.ready r, s'')) (hmoment' : s''.moment = s.moment) :
    s.run (scope.guard op) (.fresh st) = (.answered r, s'') := by
  have hbefore : (scope.guard op).turn (.fresh st) s = (.waiting (.racing st'), s') := by
    rw [guard_turn_of_untriggered op h]
    show scope.passOn (op.turn st s) = _
    rw [hfirst]
    rfl
  have hsettled : s'.settle.moment = s.moment := (Session.moment_settle s').trans hmoment
  have hafter : (scope.guard op).turn (.racing st') s'.settle = (.ready r, s'') :=
    guard_turn_ready op (by rw [hsettled, h]) hsecond (hmoment'.trans hsettled.symm)
  have hsettle : (Scheduler.settle s' : Session) = s'.settle := rfl
  simp only [Session.run, run, round, hbefore, isOver, Option.any_none, hsettle, hafter]
  rfl

end Guarded

end Operation

namespace Single

theorem steps_takeAll (st : Single) {id : CallId} (s : Session) (hown : own id) :
    s.Steps own feeds (st.takeAll id s).2 := by
  unfold takeAll
  split
  · rename_i c hslot
    refine .single (.touch ?_)
    rw [hslot]
    exact .take hown c c.waiting [] (List.append_nil _).symm
  · exact .refl

end Single

/-- The call that an operation has begun is the client's own. -/
def UnaryState.Own (own : CallId → Prop) : UnaryState → Prop
  | .unsent _ => True
  | .sent id _ => own id

/-- The call that an operation has begun is the client's own. -/
def OpenState.Own (own : CallId → Prop) : OpenState → Prop
  | .unsent _ => True
  | .sent id => own id

theorem unaryOperation_tame : unaryOperation.Tame own feeds (UnaryState.Own own) := by
  intro st s hst hnew
  cases st with
  | unsent spec =>
      refine ⟨.single (.begin s spec), ?_⟩
      intro st' hst'
      cases hst'
      exact hnew s.slots.length (Nat.le_refl _)
  | sent id seen =>
      have htake : s.Steps own feeds (seen.takeAll id s).2 := seen.steps_takeAll s hst
      simp only [unaryOperation]
      rcases hevents : seen.takeAll id s with ⟨r | seen', s'⟩ <;> rw [hevents] at htake
      · refine ⟨htake.trans (s'.steps_abandon hst), ?_⟩
        intro st' hst'
        cases hst'
      · refine ⟨htake, ?_⟩
        intro st' hst'
        cases hst'
        exact hst

theorem openOperation_tame : openOperation.Tame own feeds (OpenState.Own own) := by
  intro st s hst hnew
  cases st with
  | unsent spec =>
      refine ⟨.single (.begin s spec), ?_⟩
      intro st' hst'
      cases hst'
      exact hnew s.slots.length (Nat.le_refl _)
  | sent id =>
      have hwaits : ∀ st', Turn.waiting (OpenState.sent id) =
          (Turn.waiting st' : Turn OpenState (Except Status (CallId × Metadata))) →
            st'.Own own := by
        intro st' hst'
        cases hst'
        exact hst
      simp only [openOperation]
      rcases htake : s.take id with _ | ⟨headers | r | status, s'⟩
      · exact ⟨.refl, hwaits⟩
      · refine ⟨Session.steps_take hst htake, ?_⟩
        intro st' hst'
        cases hst'
      · exact ⟨.refl, hwaits⟩
      · refine ⟨(Session.steps_take hst htake).trans (s'.steps_abandon hst), ?_⟩
        intro st' hst'
        cases hst'

section Streams

variable {id : CallId}

theorem nextOperation_tame (hown : own id) : (nextOperation id).Tame own feeds fun _ => True := by
  intro st s _ _
  refine ⟨?_, fun _ _ => trivial⟩
  simp only [nextOperation]
  rcases htake : s.take id with _ | ⟨headers | r | status, s'⟩
  · exact .refl
  · exact Session.steps_take hown htake
  · exact Session.steps_take hown htake
  · exact Session.steps_take hown htake

theorem sendOperation_tame (hfeeds : feeds id) (r : Request) :
    (sendOperation id r).Tame own feeds fun _ => True := by
  intro st s _ _
  refine ⟨?_, fun _ _ => trivial⟩
  simp only [sendOperation]
  cases hslot : s.slot id with
  | vacant => exact .refl
  | queued spec requests closed =>
      by_cases hroom : requests.length < Call.bufferSize
      · simp only [hroom, if_true]
        refine .single (.touch ?_)
        rw [hslot]
        exact .queueRequest hfeeds spec requests r closed hroom
      · simp only [hroom, if_false]
        exact .refl
  | live c =>
      by_cases hreads : c.peer.reads = true
      · by_cases hroom : c.hasRoom = true
        · simp only [hreads, hroom, Bool.not_true, if_true]
          refine .single (.touch ?_)
          rw [hslot]
          exact .push hfeeds r c
        · simp only [hreads, hroom, Bool.not_true]
          exact .refl
      · simp only [hreads, Bool.not_false, if_true]
        exact .refl

theorem joinOperation_tame (hown : own id) : (joinOperation id).Tame own feeds fun _ => True := by
  intro st s _ _
  refine ⟨?_, fun _ _ => trivial⟩
  simp only [joinOperation]
  have htake : s.Steps own feeds (st.takeAll id s).2 := st.steps_takeAll s hown
  split
  · exact .refl
  · rcases hevents : st.takeAll id s with ⟨r | seen, s'⟩ <;>
      · rw [hevents] at htake
        exact htake

end Streams

theorem Pause.operation_tame : (Pause.operation (W := Session)).Tame own feeds fun _ => True :=
  fun _ _ _ _ => ⟨.refl, fun _ _ => trivial⟩

end RpcConformance
