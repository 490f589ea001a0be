import RpcConformance.Proofs.EchoRoundTrip
import RpcConformance.Proofs.Forecasts
import RpcConformance.Proofs.Sending

/-!
# Calls whose events are foretold

A call of the reference server with many responses owes its client a list of events: those that
wait already, and those of the items that its stream is still going to give.  The list does not
depend on when the server goes on.  It loses its first event where the client takes one, and it
gets longer where the client sends a request or closes its side.

A client that waits for an owed event gets it: at once, when the other calls have gone on, or when
the clock has jumped to the end of a pause, which is the only thing that the server can wait for.

## Main results

* `Peer.Owes.turn` — a turn of the server's side sends the next item that is owed.
* `Call.Owes.advance`, `Call.Owes.ready_or_pausing` — a call that goes on owes what it owed before,
  and has the first of it ready, unless it is in a pause.
* `Call.Owes.push`, `Call.Owes.close` — what the client adds.
-/

namespace RpcConformance

/-! ## The server's side -/

namespace Peer

/-- The stream of the server's side is in a pause. -/
inductive Pausing (due : Instant) : Peer → Prop
  | streaming {st : ResponseStream} {inbox : Inbox StreamingOutputRequest}
      {pending : Option Metadata} (h : st.Pausing due) :
      Pausing due (.streaming none st inbox pending)

theorem Pausing.alarm {due : Instant} {p : Peer} (h : p.Pausing due) (now : Instant) :
    p.alarm now = some due := by
  cases h with
  | streaming h => exact h.alarm rfl

/-- The end of a pause makes the server's side go on. -/
theorem Pausing.turn {due now : Instant} {p : Peer} (h : p.Pausing due)
    (hfired : Instant.fired due now = true) :
    ∃ part p', p.turn now = .ready (some part, p') := by
  cases h with
  | @streaming st inbox pending h =>
      obtain ⟨item, st', w, hturn⟩ := h.turn (w := ⟨moment now, inbox⟩) hfired
      exact ⟨item.part pending, afterItem st' w.inbox pending item,
        by rw [turn_streaming, hturn]⟩

/-- The items that the server's side is still going to send, behind its headers. -/
inductive Owes (F : Forecast) (ending : Option Item) (now : Instant) : List Item → Peer → Prop
  | streaming {payloads : List Payload} {st : ResponseStream}
      {inbox : Inbox StreamingOutputRequest} (h : F payloads ending ⟨moment now, inbox⟩ st) :
      Owes F ending now (Forecast.items payloads ending) (.streaming none st inbox none)
  | finished (h : ending ≠ none) : Owes F ending now [] (.replying [])

/-- What a turn makes of it. -/
inductive Turned (F : Forecast) (ending : Option Item) (now : Instant) (items : List Item) :
    Turn Peer (Option ResponsePart × Peer) → Prop
  | waits {p : Peer} (h : p.Owes F ending now items) (hwhy : items = [] ∨ ∃ due, p.Pausing due) :
      Turned F ending now items (.waiting p)
  | sends {item : Item} {rest : List Item} {p : Peer} (hitems : items = item :: rest)
      (h : p.Owes F ending now rest) :
      Turned F ending now items (.ready (some (item.part none), p))

variable {F : Forecast} {ending : Option Item} {now : Instant} {items : List Item} {p : Peer}

/-- **A turn sends the next item**, or waits. -/
theorem Owes.turn (hF : F.Sound) (h : p.Owes F ending now items) :
    Turned F ending now items (p.turn now) := by
  cases h with
  | finished hending => exact .waits (.finished hending) (Or.inl rfl)
  | @streaming payloads st inbox h =>
      have hturn := hF.poll (w := ⟨moment now, inbox⟩) rfl h
      rw [turn_streaming]
      generalize st.turn ⟨moment now, inbox⟩ = turned at hturn
      cases hturn with
      | @pauses due st' w hmoment h' hpausing =>
          obtain ⟨m, inbox'⟩ := w
          cases hmoment
          exact .waits (.streaming h') (Or.inr ⟨due, .streaming hpausing⟩)
      | @listens st' w hmoment h' hpayloads hending =>
          obtain ⟨m, inbox'⟩ := w
          cases hmoment
          refine .waits (.streaming h') (Or.inl ?_)
          rw [hpayloads, hending]
          rfl
      | @gives p rest st' w hmoment hpayloads h' =>
          obtain ⟨m, inbox'⟩ := w
          cases hmoment
          refine .sends ?_ (.streaming h')
          rw [hpayloads]
          rfl
      | @ends item st' w hmoment hpayloads hending hitem =>
          have hover : Peer.afterItem st' w.inbox none item = .replying [] := by
            cases item with
            | response p => exact absurd rfl (hitem p)
            | failed st => rfl
            | finished => rfl
          have hitems : Forecast.items payloads ending = [item] := by
            rw [hpayloads, hending]
            rfl
          refine .sends hitems ?_
          rw [hover]
          exact .finished (by rw [hending]; exact Option.some_ne_none _)

theorem Owes.pass (hF : F.Sound) (h : p.Owes F ending now items) (d : Duration) :
    p.Owes F ending (now.later d) items := by
  cases h with
  | streaming h => exact .streaming (hF.pass d h)
  | finished hending => exact .finished hending

/-- The work that is left for the server's side is enough for what it owes. -/
theorem Owes.length_le
    (hF : ∀ {payloads w st}, F payloads ending w st →
      (Forecast.items payloads ending).length ≤ responsesLeft st + 4)
    (h : p.Owes F ending now items) : items.length ≤ p.work := by
  cases h with
  | finished hending => exact Nat.le_refl 0
  | @streaming payloads st inbox h =>
      have hleft := hF h
      show _ ≤ responsesLeft st + askedFor inbox + 4
      omega

end Peer

/-- There is an item for each response that is left, and one more. -/
theorem OutputStream.Forecast.length_items {payloads : List Payload} {ending : Option Item}
    {w : Seat StreamingOutputRequest} {st : ResponseStream}
    (h : OutputStream.Forecast payloads ending w st) :
    (Forecast.items payloads ending).length = Peer.responsesLeft st + 1 := by
  cases h with
  | mk _ _ _ _ =>
      rw [RpcConformance.Forecast.items, List.length_append, List.length_map, List.length_map]
      rfl

/-! ## Calls -/

namespace Reception

/-- A client learns something from every part. -/
theorem events_ne_nil (r : Reception) (part : ResponsePart) : r.events part ≠ [] := by
  cases part with
  | headers md =>
      simp only [events]
      split
      · exact List.cons_ne_nil _ _
      · split <;> exact List.cons_ne_nil _ _
      · exact List.cons_ne_nil _ _
  | message m =>
      simp only [events]
      split
      · exact List.cons_ne_nil _ _
      · split <;> exact List.cons_ne_nil _ _
  | trailers s =>
      simp only [events]
      split <;> exact List.cons_ne_nil _ _
  | refusal s =>
      simp only [events]
      split <;> exact List.cons_ne_nil _ _

/-- What a client learns from the items of a stream. -/
def itemEvents (r : Reception) (items : List Item) : List Event :=
  items.flatMap fun item => r.events (item.part none)

theorem itemEvents_append (r : Reception) (items more : List Item) :
    r.itemEvents (items ++ more) = r.itemEvents items ++ r.itemEvents more :=
  List.flatMap_append

/-- Every item is one event. -/
theorem length_itemEvents (r : Reception) (items : List Item) :
    (r.itemEvents items).length = items.length := by
  have hone : ∀ item : Item, (r.events (item.part none)).length = 1 := by
    intro item
    cases item with
    | response p =>
        simp only [Item.part, events]
        split
        · rfl
        · split <;> rfl
    | failed st =>
        simp only [Item.part, events]
        split <;> rfl
    | finished =>
        simp only [Item.part, events]
        split <;> rfl
  induction items with
  | nil => rfl
  | cons item rest ih =>
      rw [itemEvents, List.flatMap_cons, List.length_append, hone, List.length_cons, ← ih,
        Nat.add_comm]
      rfl

theorem after_part (r : Reception) (item : Item) : r.after (item.part none) = r := by
  cases item <;> rfl

end Reception

/-- What a call still owes its client: the events that wait, and those of the items that the
server is still going to send. -/
structure Call.Owes (F : Forecast) (reception : Reception) (ending : Option Item) (now : Instant)
    (events : List Event) (c : Call) : Prop where
  read : c.reception = reception
  items : ∃ items, c.peer.Owes F ending now items ∧
    c.waiting ++ reception.itemEvents items = events

namespace Call

variable {F : Forecast} {reception : Reception} {ending : Option Item} {now : Instant}
  {events : List Event} {c : Call}

theorem Owes.advanceWithin (hF : F.Sound) (h : c.Owes F reception ending now events)
    (fuel : Nat) : (advanceWithin now fuel c).Owes F reception ending now events := by
  induction fuel generalizing c with
  | zero => exact h
  | succ fuel ih =>
      obtain ⟨items, hpeer, hevents⟩ := h.items
      have hturn := hpeer.turn hF
      simp only [Call.advanceWithin]
      generalize c.peer.turn now = turned at hturn
      cases hturn with
      | waits hpeer' _ => exact ⟨h.read, items, hpeer', hevents⟩
      | @sends item rest p hitems hpeer' =>
          refine ih ⟨?_, rest, hpeer', ?_⟩
          · show c.reception.after (item.part none) = reception
            rw [Reception.after_part, h.read]
          · subst hitems
            show c.waiting ++ c.reception.events (item.part none) ++ _ = events
            rw [← hevents, h.read, List.append_assoc]
            rfl

/-- **A call that goes on owes what it owed before.** -/
theorem Owes.advance (hF : F.Sound) (h : c.Owes F reception ending now events) :
    (c.advance now).Owes F reception ending now events := by
  have hwithin := h.advanceWithin hF (c.peer.work + 1)
  exact ⟨hwithin.read, hwithin.items⟩

theorem Owes.pass (hF : F.Sound) (h : c.Owes F reception ending now events) (d : Duration) :
    c.Owes F reception ending (now.later d) events := by
  obtain ⟨items, hpeer, hevents⟩ := h.items
  exact ⟨h.read, items, hpeer.pass hF d, hevents⟩

theorem Owes.take (h : c.Owes F reception ending now events) {e : Event} {rest : List Event}
    (hwaiting : c.waiting = e :: rest) :
    ∃ events', events = e :: events' ∧
      ({ c with waiting := rest } : Call).Owes F reception ending now events' := by
  obtain ⟨items, hpeer, hevents⟩ := h.items
  rw [hwaiting] at hevents
  exact ⟨_, hevents.symm, h.read, items, hpeer, rfl⟩

/-- Events that wait are not lost. -/
theorem isPrefix_advanceWithin (now : Instant) (fuel : Nat) (c : Call) :
    c.waiting <+: (Call.advanceWithin now fuel c).waiting := by
  have hfront := advanceWithin_waiting now fuel c.waiting { c with waiting := [] }
  dsimp only at hfront
  rw [List.append_nil] at hfront
  rw [hfront]
  exact List.prefix_append _ _

/-- A server's side that has something to send makes events wait. -/
theorem waiting_advance_ne_nil {part : ResponsePart} {p : Peer}
    (hturn : c.peer.turn now = .ready (some part, p)) : (c.advance now).waiting ≠ [] := by
  have hprefix := isPrefix_advanceWithin now c.peer.work
    { c with
      peer := p
      reception := c.reception.after part
      waiting := c.waiting ++ c.reception.events part }
  show (Call.advanceWithin now (c.peer.work + 1) c).waiting ≠ []
  simp only [Call.advanceWithin, hturn]
  intro hnone
  rw [hnone] at hprefix
  have hempty := List.append_eq_nil_iff.mp (List.prefix_nil.mp hprefix)
  exact c.reception.events_ne_nil part hempty.2

/-- **A call that has gone on has the first event ready**, unless the server is in a pause. -/
theorem Owes.ready_or_pausing (hF : F.Sound) (h : c.Owes F reception ending now events)
    (hevents : events ≠ []) :
    (c.advance now).waiting ≠ [] ∨ ∃ due, (c.advance now).peer.Pausing due := by
  obtain ⟨items, hpeer, hitems⟩ := h.items
  have hturned := hpeer.turn hF
  rcases hturn : c.peer.turn now with ⟨part, p⟩ | p <;> rw [hturn] at hturned
  · cases hturned with
    | sends _ _ => exact Or.inl (waiting_advance_ne_nil hturn)
  · have hadvance : c.advance now = { c with peer := p, unsettled := 0 } := by
      show { Call.advanceWithin now (c.peer.work + 1) c with unsettled := 0 } = _
      simp only [Call.advanceWithin, hturn]
    rw [hadvance]
    cases hturned with
    | waits _ hwhy =>
        rcases hwhy with hnone | hpausing
        · rw [hnone] at hitems
          have hwaiting : c.waiting = events := (List.append_nil _).symm.trans hitems
          exact Or.inl (hwaiting ▸ hevents)
        · exact Or.inr hpausing

/-! ### What the client adds -/

/-- A request that can be read adds the responses to it. -/
theorem Owes.push {F' : Forecast} {r : StreamingOutputRequest} {more : List Payload}
    (h : c.Owes F reception none now events)
    (hfits : reception.compressed = true ∨ r.encodedLength ≤ maxMessageLength)
    (hF' : ∀ payloads w st, F payloads none w st →
      F' (payloads ++ more) none { w with inbox := w.inbox.push (.message r) } st) :
    (c.push (.output r)).Owes F' reception none now
      (events ++ reception.itemEvents (more.map .response)) := by
  obtain ⟨items, hpeer, hevents⟩ := h.items
  have harrival : Peer.arrival reception.compressed StreamingOutputRequest.encodedLength r =
      .message r := by
    rcases hfits with hcompressed | hshort
    · rw [Peer.arrival, if_pos hcompressed]
    · rw [Peer.arrival, Arrival.limited, if_neg (Nat.not_lt.mpr hshort), ite_self]
  rcases c with ⟨peer, own, waiting, unsettled⟩
  obtain rfl : own = reception := h.read
  cases hpeer with
  | finished hending => exact absurd rfl hending
  | @streaming payloads st inbox hforecast =>
      have hmore := hF' _ _ _ hforecast
      rw [← harrival] at hmore
      refine ⟨rfl, _, .streaming hmore, ?_⟩
      dsimp only at hevents ⊢
      rw [← hevents, List.append_assoc, ← Reception.itemEvents_append]
      simp only [Call.push, Forecast.items, Option.toList_none, List.append_nil, List.map_append]

/-- The end of the input adds what it asks for. -/
theorem Owes.close {F' : Forecast} {more : List Payload} {ending' : Option Item}
    (h : c.Owes F reception none now events)
    (hF' : ∀ payloads w st, F payloads none w st →
      F' (payloads ++ more) ending' { w with inbox := w.inbox.close } st) :
    c.close.Owes F' reception ending' now
      (events ++ reception.itemEvents (Forecast.items more ending')) := by
  obtain ⟨items, hpeer, hevents⟩ := h.items
  rcases c with ⟨peer, own, waiting, unsettled⟩
  cases hpeer with
  | finished hending => exact absurd rfl hending
  | @streaming payloads st inbox hforecast =>
      refine ⟨h.read, _, .streaming (hF' _ _ _ hforecast), ?_⟩
      dsimp only at hevents ⊢
      rw [← hevents, List.append_assoc, ← Reception.itemEvents_append]
      simp only [Call.close, Forecast.items, Option.toList_none, List.append_nil, List.map_append,
        List.append_assoc]

theorem Owes.reads (h : c.Owes F reception none now events) : c.peer.reads = true := by
  obtain ⟨items, hpeer, _⟩ := h.items
  rcases c with ⟨peer, own, waiting, unsettled⟩
  cases hpeer with
  | finished hending => exact absurd rfl hending
  | streaming _ => rfl

end Call

end RpcConformance
