import Mathlib.Algebra.Order.BigOperators.Group.List
import Mathlib.Algebra.Order.Group.Nat
import RpcConformance.Proofs.ScriptedCalls
import RpcConformance.Proofs.SessionFrame

/-!
# Sessions with scripted servers

In a session all of whose calls are to scripted servers, or have been answered altogether, the
timers of the servers fire one after another, and each that fires leaves less to do.  So only so
many of them can fire before nothing is left to wait for.

## Main results

* `Session.Scripted.settle`, `Session.Steps.scripted` — such a session stays one.
* `Session.timers_settle_lt` — a timer that fires leaves less to do.
-/

namespace RpcConformance

/-! ## Timers -/

namespace Instant

theorem tick_mono {a b : Instant} (h : a ≤ b) : a.tick ≤ b.tick := by
  have hnanos : a.nanos ≤ b.nanos := h
  simp only [tick, millis]
  split <;> split <;> omega

/-- A jump leads to the tick of the timer, or nowhere where the timer has fired. -/
theorem millis_jumpTo (now due : Instant) : (now.jumpTo due).millis = max now.millis due.tick := by
  simp only [jumpTo, millis]
  omega

/-- The earlier of two due times is one of them, and there is none only where there are none. -/
theorem earliest_cases (a b : Option Instant) :
    (earliest a b = none ∧ a = none ∧ b = none) ∨
      ∃ due, earliest a b = some due ∧ (a = some due ∨ b = some due) ∧
        ∀ t, a = some t → due ≤ t := by
  rcases a with _ | a
  · rcases b with _ | b
    · exact Or.inl ⟨rfl, rfl, rfl⟩
    · exact Or.inr ⟨b, rfl, Or.inr rfl, nofun⟩
  · rcases b with _ | b
    · refine Or.inr ⟨a, rfl, Or.inl rfl, ?_⟩
      rintro t ⟨⟩
      exact Instant.le_refl a
    · refine Or.inr ⟨if b < a then b else a, rfl, ?_, ?_⟩
      · split
        · exact Or.inr rfl
        · exact Or.inl rfl
      · rintro t ⟨⟩
        split
        · rename_i hlt
          exact Nat.le_of_lt hlt
        · exact Instant.le_refl a

/-- The same for a list. -/
theorem foldl_earliest {α : Type} (f : α → Option Instant) (l : List α) (first : Option Instant) :
    (l.foldl (fun t x => earliest t (f x)) first = none ∧ first = none ∧ ∀ x ∈ l, f x = none) ∨
      ∃ due, l.foldl (fun t x => earliest t (f x)) first = some due ∧
        (first = some due ∨ ∃ x ∈ l, f x = some due) := by
  induction l generalizing first with
  | nil =>
      cases first with
      | none => exact Or.inl ⟨rfl, rfl, nofun⟩
      | some due => exact Or.inr ⟨due, rfl, Or.inl rfl⟩
  | cons x rest ih =>
      rcases ih (earliest first (f x)) with
        ⟨hfold, hnone, hrest⟩ | ⟨due, hfold, hfirst | ⟨y, hy, hdue⟩⟩
      · rcases earliest_cases first (f x) with ⟨-, hfirst, hx⟩ | ⟨due, hsome, -⟩
        · exact Or.inl ⟨hfold, hfirst, List.forall_mem_cons.mpr ⟨hx, hrest⟩⟩
        · rw [hsome] at hnone
          cases hnone
      · rcases earliest_cases first (f x) with ⟨hnone, -⟩ | ⟨due', hsome, hcause, -⟩
        · rw [hnone] at hfirst
          cases hfirst
        · rw [hsome] at hfirst
          cases hfirst
          exact Or.inr ⟨due, hfold, hcause.imp_right fun hx => ⟨x, List.mem_cons_self, hx⟩⟩
      · exact Or.inr ⟨due, hfold, Or.inr ⟨y, List.mem_cons_of_mem _ hy, hdue⟩⟩

end Instant

/-! ## Calls -/

namespace Call

variable {c : Call}

theorem outstanding_push (h : c.peer.Scripted) (r : Request) :
    (c.push r).peer.Scripted ∧ (c.push r).outstanding = c.outstanding := by
  obtain ⟨hscripted, hparts⟩ := h.push c.reception.compressed r
  refine ⟨hscripted, ?_⟩
  show c.waiting ++ c.reception.eventsOf (c.peer.push c.reception.compressed r).parts = _
  rw [hparts, outstanding]

theorem outstanding_pushAll (h : c.peer.Scripted) (requests : List Request) :
    (requests.foldl (fun c r => c.push r) c).peer.Scripted ∧
      (requests.foldl (fun c r => c.push r) c).outstanding = c.outstanding := by
  induction requests generalizing c with
  | nil => exact ⟨h, rfl⟩
  | cons r rest ih =>
      obtain ⟨hscripted, hsame⟩ := outstanding_push h r
      obtain ⟨hscripted', hsame'⟩ := ih hscripted
      exact ⟨hscripted', hsame'.trans hsame⟩

theorem outstanding_close (h : c.peer.Scripted) :
    c.close.peer.Scripted ∧ c.close.outstanding = c.outstanding ∧ c.close.peer.InputOver := by
  obtain ⟨hscripted, hparts, hover⟩ := h.close
  refine ⟨hscripted, ?_, hover⟩
  show c.waiting ++ c.reception.eventsOf c.peer.close.parts = _
  rw [hparts, outstanding]

end Call

/-- A scripted server plays a script for every call. -/
theorem Backend.scripted_accept (methods : List (String × List Behaviour)) (spec : CallSpec)
    (now : Instant) (earlier : Nat) :
    ((Backend.scripted methods).accept spec now earlier).Scripted := by
  show (Backend.firstRequests spec).OnlyRequests
  unfold Backend.firstRequests
  split
  · exact nofun
  · intro a ha
    exact List.mem_singleton.mp ha

/-! ## Slots -/

/-- A place for a call whose server is, or is going to be, a scripted one. -/
def Slot.Scripted (server : Backend) : Slot → Prop
  | .vacant => True
  | .queued spec _ _ => ∀ now earlier, (server.accept spec now earlier).Scripted
  | .live c => c.peer.Scripted

/-- A place for a call that does not wait in a queue. -/
def Slot.Begun : Slot → Prop
  | .queued _ _ _ => False
  | _ => True

/-- What a client does to a call leaves its server as it is. -/
theorem SlotTouch.scripted {own feeds : Prop} {server : Backend} {slot slot' : Slot}
    (h : SlotTouch own feeds slot slot') (hslot : slot.Scripted server) :
    slot'.Scripted server := by
  cases h with
  | giveUp => trivial
  | take => exact hslot
  | push _ r c => exact (Call.outstanding_push hslot r).1
  | close _ c => exact (Call.outstanding_close hslot).1
  | queueRequest => exact hslot
  | queueEnd => exact hslot

namespace Session

/-- A session all of whose calls have scripted servers. -/
def Scripted (s : Session) : Prop := ∀ id, (s.slot id).Scripted s.server

/-- A session all of whose calls have begun. -/
def Begun (s : Session) : Prop := ∀ id, (s.slot id).Begun

variable {s s' : Session} {id : CallId} {c : Call}

theorem exists_slot_of_mem {slot : Slot} (h : slot ∈ s.slots) : ∃ id, s.slot id = slot := by
  obtain ⟨id, hid, hslot⟩ := List.getElem_of_mem h
  refine ⟨id, ?_⟩
  rw [Session.slot, List.getD_eq_getElem _ _ hid, hslot]

theorem getElem?_of_slot (h : s.slot id = .live c) : s.slots[id]? = some (.live c) := by
  have hid := lt_length_of_live h
  rw [Session.slot, List.getD_eq_getElem _ _ hid] at h
  rw [List.getElem?_eq_getElem hid, h]

theorem Scripted.live (h : s.Scripted) (hslot : s.slot id = .live c) : c.peer.Scripted := by
  have hpeer := h id
  rw [hslot] at hpeer
  exact hpeer

/-! ### Queued calls begin -/

/-- What a queued call is when it has begun. -/
theorem begun_of_queued {spec : CallSpec} {requests : List Request} {closed : Bool}
    (h : (Slot.queued spec requests closed).Scripted s.server) :
    ∃ c, s.begun (.queued spec requests closed) = .live c ∧ c.peer.Scripted ∧
      c.outstanding = (s.reach spec).1.outstanding ∧ (closed = true → c.peer.InputOver) := by
  have hreached : (s.reach spec).1.peer.Scripted := by
    unfold reach
    split
    · exact h _ _
    · trivial
  obtain ⟨hscripted, hsame⟩ := Call.outstanding_pushAll hreached requests
  rw [begun_queued]
  cases closed with
  | false => exact ⟨_, rfl, hscripted, hsame, nofun⟩
  | true =>
      obtain ⟨hscripted', hsame', hover⟩ := Call.outstanding_close hscripted
      exact ⟨_, rfl, hscripted', hsame'.trans hsame, fun _ => hover⟩

/-! ### What keeps a session scripted -/

theorem server_settle (s : Session) : s.settle.server = s.server := (beginAll_session s.slots s).1

theorem Scripted.settle (h : s.Scripted) : s.settle.Scripted := by
  intro id
  have hslot := h id
  obtain ⟨s₁, hserver, -, hsettled⟩ := s.slot_settle id
  rw [hsettled, server_settle]
  generalize s.slot id = slot at hslot
  cases slot with
  | vacant => trivial
  | live c => exact (Call.advanced_advance hslot _).scripted
  | queued spec requests closed =>
      rw [← hserver] at hslot
      obtain ⟨c, hbegun, hscripted, -⟩ := begun_of_queued hslot
      rw [hbegun]
      exact (Call.advanced_advance hscripted _).scripted

/-- A slot that is set is the new one or, behind the end of the table, what it was. -/
theorem slot_setSlot_cases (s : Session) (id id' : CallId) (slot : Slot) :
    (s.setSlot id slot).slot id' = slot ∨ (s.setSlot id slot).slot id' = s.slot id' := by
  by_cases hsame : id = id'
  · subst hsame
    by_cases hid : id < s.slots.length
    · exact Or.inl (slot_setSlot_self slot hid)
    · refine Or.inr ?_
      rw [Session.slot, Session.setSlot, List.set_eq_of_length_le (Nat.not_lt.mp hid), Session.slot]
  · exact Or.inr (slot_setSlot_of_ne s slot hsame)

theorem Scripted.setSlot {slot : Slot} (h : s.Scripted) (hslot : slot.Scripted s.server) :
    (s.setSlot id slot).Scripted := by
  intro id'
  rcases s.slot_setSlot_cases id id' slot with hnew | hsame
  · rw [hnew]
    exact hslot
  · rw [hsame]
    exact h id'

theorem Scripted.abandon (h : s.Scripted) (id : CallId) : (s.abandon id).Scripted :=
  h.setSlot trivial

/-- A new call. -/
theorem Scripted.append {slot : Slot} (h : s.Scripted) (hserver : s'.server = s.server)
    (hslots : s'.slots = s.slots ++ [slot]) (hslot : slot.Scripted s.server) : s'.Scripted := by
  intro id
  rw [hserver]
  rcases Nat.lt_trichotomy id s.slots.length with hid | rfl | hid
  · have hsame : s'.slot id = s.slot id := by
      rw [Session.slot, hslots, List.getD_append _ _ _ _ hid, Session.slot]
    rw [hsame]
    exact h id
  · have hnew : s'.slot s.slots.length = slot := by
      rw [Session.slot, hslots, List.getD_append_right _ _ _ _ (Nat.le_refl _), Nat.sub_self]
      rfl
    rw [hnew]
    exact hslot
  · have hout : s'.slots.length ≤ id := by
      rw [hslots, List.length_append]
      exact hid
    rw [slot_of_length_le hout]
    trivial

theorem Scripted.begin {spec : CallSpec} (h : s.Scripted)
    (hpeer : (s.accept spec).1.peer.Scripted) : (s.begin spec).2.Scripted :=
  h.append rfl rfl hpeer

theorem scripted_start (server : Backend) : (Session.start server).Scripted := by
  intro id
  rw [slot_of_length_le (s := Session.start server) (Nat.zero_le id)]
  trivial

/-- Whatever a client of a scripted server does, all of its calls have scripted servers. -/
theorem Steps.scripted {own feeds : CallId → Prop} {methods : List (String × List Behaviour)}
    (h : s.Steps own feeds s') (hserver : s.server = .scripted methods) (hs : s.Scripted) :
    s'.Scripted := by
  induction h with
  | refl => exact hs
  | @tail s₁ s₂ hsteps hstep ih =>
      have hserver₁ : s₁.server = .scripted methods := (Steps.evolves hsteps).server.trans hserver
      have haccept : ∀ (spec : CallSpec) now earlier,
          (s₁.server.accept spec now earlier).Scripted := by
        rw [hserver₁]
        exact Backend.scripted_accept methods
      cases hstep with
      | settle => exact ih.settle
      | pass => exact ih
      | newScope => exact ih
      | begin spec => exact ih.begin (haccept spec _ _)
      | enqueue spec => exact ih.append rfl rfl (haccept spec)
      | touch h => exact ih.setSlot (h.scripted (ih _))

/-! ### What is left to do -/

theorem beginAll_of_begun {slots : List Slot} (h : ∀ slot ∈ slots, slot.Begun) (s : Session) :
    beginAll slots s = (slots, s) := by
  induction slots with
  | nil => rfl
  | cons slot rest ih =>
      obtain ⟨hslot, hrest⟩ := List.forall_mem_cons.mp h
      cases slot with
      | queued => cases hslot
      | vacant | live => simp only [beginAll, ih hrest]

/-- Where no call waits in a queue, the servers go on and nothing else happens. -/
theorem Begun.settle_eq (h : s.Begun) :
    s.settle = { s with slots := s.slots.map (advanceSlot s.moment.now) } := by
  have hslots : ∀ slot ∈ s.slots, slot.Begun := by
    intro slot hslot
    obtain ⟨id, rfl⟩ := exists_slot_of_mem hslot
    exact h id
  simp only [settle, beginAll_of_begun hslots]

/-- No call waits in a queue after that. -/
theorem begun_settle (s : Session) : s.settle.Begun := by
  intro id
  obtain ⟨s₁, -, -, hslot⟩ := s.slot_settle id
  rw [hslot]
  cases s.slot id with
  | vacant => trivial
  | live c => trivial
  | queued spec requests closed => trivial

theorem Begun.setSlot {slot : Slot} (h : s.Begun) (hslot : slot.Begun) :
    (s.setSlot id slot).Begun := by
  intro id'
  rcases s.slot_setSlot_cases id id' slot with hnew | hsame
  · rw [hnew]
    exact hslot
  · rw [hsame]
    exact h id'

/-- A server that goes on has no more to do than before. -/
theorem slotWork_advanceSlot {server : Backend} {slot : Slot} (h : slot.Scripted server)
    (now : Instant) : slotWork (advanceSlot now slot) ≤ slotWork slot := by
  cases slot with
  | vacant | queued => exact Nat.le_refl _
  | live c => exact (Call.advanced_advance h now).work

/-- **A timer that has fired leaves less to do.** -/
theorem timers_settle_lt {slot : Slot} {due earlier : Instant} (hscripted : s.Scripted)
    (hbegun : s.Begun) (hmem : slot ∈ s.slots) (halarm : slotAlarm earlier slot = some due)
    (hfired : Instant.fired due s.moment.now = true) :
    Scheduler.timers s.settle < Scheduler.timers s := by
  rw [hbegun.settle_eq]
  show ((s.slots.map _).map slotWork).sum < _
  rw [List.map_map]
  refine List.sum_lt_sum _ _ (fun slot hslot => ?_) ⟨slot, hmem, ?_⟩
  · obtain ⟨id, rfl⟩ := exists_slot_of_mem hslot
    exact slotWork_advanceSlot (hscripted id) _
  · obtain ⟨id, hid⟩ := exists_slot_of_mem hmem
    have hslot := hscripted id
    rw [hid] at hslot
    cases slot with
    | vacant | queued => cases halarm
    | live c => exact Call.work_advance_lt hslot halarm hfired

/-- The earliest timer of the servers is one of them, and there is none only where no server has
set one. -/
theorem alarm_cases (s : Session) :
    (Scheduler.alarm s = none ∧ ∀ id, slotAlarm s.moment.now (s.slot id) = none) ∨
      ∃ due, Scheduler.alarm s = some due ∧
        ∃ slot ∈ s.slots, slotAlarm s.moment.now slot = some due := by
  rcases Instant.foldl_earliest (slotAlarm s.moment.now) s.slots none with
    ⟨hnone, -, hslots⟩ | ⟨due, hsome, hcause | hslot⟩
  · refine Or.inl ⟨hnone, fun id => ?_⟩
    by_cases hid : id < s.slots.length
    · rw [Session.slot, List.getD_eq_getElem _ _ hid]
      exact hslots _ (List.getElem_mem hid)
    · rw [slot_of_length_le (Nat.not_lt.mp hid)]
      rfl
  · cases hcause
  · exact Or.inr ⟨due, hsome, hslot⟩

end Session

end RpcConformance
