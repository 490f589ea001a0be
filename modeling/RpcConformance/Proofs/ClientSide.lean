import RpcConformance.Proofs.GuardRace
import RpcConformance.Service.Collect

/-!
# What a client sends, and what a service reads of it

Between the polls of a service its client sends requests, half-closes, or breaks off, and time
passes.  What a client has sent is a fold over the schedule, apart from any service.  The inbox
always holds the part of it that has not been read, so a reader is described by that part
alone, and by how the client's side has ended.

An input that fails as cancelled ends like one that was closed: the transport reports such a
failure as the end of the requests.

## Main results

* `unread_act` — what a client does to the inbox is what it has sent.
* `gathered_turn` — what one poll of a service makes of its input that answers at the end.
-/

namespace RpcConformance

/-! ## The client's side -/

/-- How the client's side of a call stands. -/
inductive InputEnd
  | ongoing
  | closed
  | failed (st : Status)
deriving DecidableEq

namespace InputEnd

/-- The failure that a reader comes to; one that is a cancellation is none. -/
def failure? : InputEnd → Option Status
  | failed st => if st.code = .cancelled then none else some st
  | _ => none

/-- Nothing more will be sent. -/
def isOver : InputEnd → Bool
  | .ongoing => false
  | _ => true

/-- What arrives behind the last request. -/
def arrivals {ρ : Type} : InputEnd → List (Arrival ρ)
  | failed st => [.failure st]
  | _ => []

theorem isOver_eq_true_iff {e : InputEnd} : e.isOver = true ↔ e ≠ .ongoing := by
  cases e <;> simp [isOver]

theorem over_of_failure {e : InputEnd} {st : Status} (h : e.failure? = some st) :
    e ≠ .ongoing := by
  rintro rfl
  cases h

end InputEnd

/-- What a client does between two polls of a service, the passing of time among it. -/
inductive ClientAct (ρ : Type)
  | pass (g : Gap)
  | send (request : ρ)
  | close
  | fail (st : Status)

/-- Nothing arrives once the client's side is over. -/
def ClientAct.act {ρ : Type} : ClientAct ρ → Seat ρ → Seat ρ
  | pass g, w => { w with moment := w.moment.after g }
  | send r, w =>
    if w.inbox.closed then w else { w with inbox := w.inbox.push (.message r) }
  | close, w => { w with inbox := w.inbox.close }
  | fail st, w =>
    if w.inbox.closed then w else { w with inbox := (w.inbox.push (.failure st)).close }

/-- What a client has sent, and how its side stands. -/
structure ClientSide (ρ : Type) where
  requests : List ρ := []
  ending : InputEnd := .ongoing

namespace ClientSide

variable {ρ : Type}

/-- What a beat adds to what has been sent. -/
def hear : ClientSide ρ → Beat (ClientAct ρ) → ClientSide ρ
  | ⟨requests, .ongoing⟩, .event (.send r) => ⟨requests ++ [r], .ongoing⟩
  | ⟨requests, .ongoing⟩, .event .close => ⟨requests, .closed⟩
  | ⟨requests, .ongoing⟩, .event (.fail st) => ⟨requests, .failed st⟩
  | c, _ => c

/-- What a client has sent by the end of a schedule. -/
def sent (beats : List (Beat (ClientAct ρ))) : ClientSide ρ := beats.foldl hear {}

theorem sent_concat (beats : List (Beat (ClientAct ρ))) (b : Beat (ClientAct ρ)) :
    sent (beats ++ [b]) = (sent beats).hear b := by
  simp only [sent, List.foldl_append, List.foldl_cons, List.foldl_nil]

@[simp] theorem hear_poll (c : ClientSide ρ) : c.hear .poll = c := by
  rcases c with ⟨requests, _ | _ | _⟩ <;> rfl

/-- A side that is over stays as it is. -/
theorem hear_of_over {c : ClientSide ρ} (h : c.ending ≠ .ongoing) (b : Beat (ClientAct ρ)) :
    c.hear b = c := by
  rcases c with ⟨requests, _ | _ | _⟩
  · exact absurd rfl h
  · rcases b with _ | _ | _ | _ | _ <;> rfl
  · rcases b with _ | _ | _ | _ | _ <;> rfl

/-- A side goes on with requests behind those before, and it ends once. -/
theorem hear_cases (c : ClientSide ρ) (b : Beat (ClientAct ρ)) :
    (∃ more, (c.hear b).requests = c.requests ++ more) ∧
      (c.ending = .ongoing ∨ c.hear b = c) := by
  by_cases hongoing : c.ending = .ongoing
  · refine ⟨?_, Or.inl hongoing⟩
    rcases c with ⟨requests, ending⟩
    dsimp only at hongoing
    subst hongoing
    rcases b with _ | _ | r | _ | _
    · exact ⟨[], (List.append_nil _).symm⟩
    · exact ⟨[], (List.append_nil _).symm⟩
    · exact ⟨[r], rfl⟩
    · exact ⟨[], (List.append_nil _).symm⟩
    · exact ⟨[], (List.append_nil _).symm⟩
  · rw [hear_of_over hongoing]
    exact ⟨⟨[], (List.append_nil _).symm⟩, Or.inr rfl⟩

/-- A side that is over stays as it is, whatever follows. -/
theorem sent_append_of_over {beats : List (Beat (ClientAct ρ))}
    (hover : (sent beats).ending ≠ .ongoing) (more : List (Beat (ClientAct ρ))) :
    sent (beats ++ more) = sent beats := by
  induction more using List.reverseRecOn with
  | nil => rw [List.append_nil]
  | append_singleton more b ih => rw [← List.append_assoc, sent_concat, ih, hear_of_over hover]

/-- More is only ever sent behind what has been sent. -/
theorem requests_isPrefix (beats more : List (Beat (ClientAct ρ))) :
    (sent beats).requests <+: (sent (beats ++ more)).requests := by
  induction more using List.reverseRecOn with
  | nil => simp only [List.append_nil, List.prefix_refl]
  | append_singleton more b ih =>
      rw [← List.append_assoc, sent_concat]
      obtain ⟨added, hadded⟩ := ((sent (beats ++ more)).hear_cases b).1
      rw [hadded]
      exact ih.trans (List.prefix_append _ _)

end ClientSide

/-! ## The unread part -/

/-- The inbox that holds some requests, and then the end of the client's side. -/
def unread {ρ : Type} (pending : List ρ) (e : InputEnd) : Inbox ρ :=
  ⟨pending.map .message ++ e.arrivals, e.isOver⟩

section Unread

variable {ρ : Type} {w : Seat ρ} {pending read : List ρ} {c : ClientSide ρ} {e : InputEnd}

/-- Nothing arrives in an inbox that is closed. -/
theorem inbox_act_of_closed (hclosed : w.inbox.closed = true) (a : ClientAct ρ) :
    (a.act w).inbox = w.inbox := by
  cases a with
  | pass g => rfl
  | send r => simp only [ClientAct.act, hclosed, if_true]
  | close => rw [ClientAct.act, Inbox.close, ← hclosed]
  | fail st => simp only [ClientAct.act, hclosed, if_true]

/-- **What a client does to the inbox is what it has sent.**  The requests that have been read
and those in the inbox are all requests. -/
theorem unread_act (hrequests : c.requests = read ++ pending)
    (hinbox : w.inbox = unread pending c.ending) (a : ClientAct ρ) :
    ∃ pending', (c.hear (.event a)).requests = read ++ pending' ∧
      (a.act w).inbox = unread pending' (c.hear (.event a)).ending := by
  have hclosed : w.inbox.closed = c.ending.isOver := by rw [hinbox, unread]
  rcases c with ⟨requests, ending⟩
  dsimp only at hrequests hinbox hclosed
  subst hrequests
  by_cases hongoing : ending = .ongoing
  · subst hongoing
    cases a with
    | pass g => exact ⟨pending, rfl, hinbox⟩
    | send r =>
        refine ⟨pending ++ [r], by simp only [ClientSide.hear, List.append_assoc], ?_⟩
        simp only [ClientAct.act, hinbox, Inbox.push, unread, ClientSide.hear,
          InputEnd.arrivals, InputEnd.isOver, List.map_append, List.map_cons, List.map_nil,
          List.append_nil, Bool.false_eq_true, if_false]
    | close =>
        refine ⟨pending, rfl, ?_⟩
        simp only [ClientAct.act, hinbox, Inbox.close, unread, ClientSide.hear,
          InputEnd.arrivals, InputEnd.isOver]
    | fail st =>
        refine ⟨pending, rfl, ?_⟩
        simp only [ClientAct.act, hinbox, Inbox.push, Inbox.close, unread,
          ClientSide.hear, InputEnd.arrivals, InputEnd.isOver, List.append_nil,
          Bool.false_eq_true, if_false]
  · have hover : w.inbox.closed = true :=
      hclosed.trans (InputEnd.isOver_eq_true_iff.mpr hongoing)
    rw [ClientSide.hear_of_over (c := ⟨read ++ pending, ending⟩) hongoing]
    exact ⟨pending, rfl, (inbox_act_of_closed hover a).trans hinbox⟩

/-- The requests in an inbox. -/
def Inbox.messages {ρ : Type} (i : Inbox ρ) : List ρ :=
  i.arrivals.filterMap fun
    | .message r => some r
    | _ => .none

@[simp] theorem messages_unread (pending : List ρ) (e : InputEnd) :
    (unread pending e).messages = pending := by
  have hrequests : (pending.map Arrival.message).filterMap (fun
      | .message r => some r
      | _ => none) = pending := by
    rw [List.filterMap_map]
    exact List.filterMap_some
  cases e <;>
    simp only [Inbox.messages, unread, InputEnd.arrivals, List.filterMap_append, hrequests,
      List.filterMap_nil, List.filterMap_cons_none, List.append_nil]

theorem next_turn_cons {r : ρ} (hinbox : w.inbox = unread (r :: pending) e) :
    Inbox.next.turn () w = (.ready (.ok (some r)), { w with inbox := unread pending e }) := by
  simp only [Inbox.next, hinbox, unread, List.map_cons, List.cons_append, Inbox.read]

theorem next_turn_ongoing (hinbox : w.inbox = unread [] .ongoing) :
    Inbox.next.turn () w = (.waiting (), w) := by
  rcases w with ⟨m, inbox⟩
  dsimp only at hinbox
  subst hinbox
  rfl

/-- What a reader comes to behind the last request. -/
theorem next_turn_over (hinbox : w.inbox = unread [] e) (hover : e ≠ .ongoing) :
    Inbox.next.turn () w =
      (.ready (match e.failure? with
        | some st => .error st
        | none => .ok none), { w with inbox := unread [] .closed }) := by
  cases e with
  | ongoing => exact absurd rfl hover
  | closed =>
      simp only [Inbox.next, hinbox, unread, InputEnd.arrivals, InputEnd.isOver, List.map_nil,
        List.nil_append, Inbox.read, InputEnd.failure?, if_true]
  | failed st =>
      simp only [Inbox.next, hinbox, unread, InputEnd.arrivals, InputEnd.isOver, List.map_nil,
        List.nil_append, Inbox.read, InputEnd.failure?]
      split <;> rfl

end Unread

/-! ## A triggered scope stays triggered -/

section Latch

variable {ρ : Type} {s : Scope}

/-- Only the passing of time moves the moment. -/
theorem precedes_act (a : ClientAct ρ) (w : Seat ρ) : w.moment.Precedes (a.act w).moment := by
  cases a with
  | pass g => exact Moment.precedes_after w.moment g
  | close => exact .refl _
  | send r =>
      simp only [ClientAct.act]
      split <;> exact .refl _
  | fail st =>
      simp only [ClientAct.act]
      split <;> exact .refl _

theorem untriggered_of_act {a : ClientAct ρ} {w : Seat ρ}
    (h : s.failure? (a.act w).moment = none) : s.failure? w.moment = none :=
  Scope.untriggered_of_precedes (precedes_act a w) h

theorem noticed_act {a : ClientAct ρ} {w : Seat ρ} (h : s.Noticed w.moment) :
    s.Noticed (a.act w).moment :=
  h.mono (precedes_act a w)

end Latch

/-- A reader takes no time. -/
theorem moment_guarded_read {ρ : Type} (scope : Scope) (g : Scope.Guarded Unit) (w : Seat ρ) :
    ((scope.guard Inbox.next).turn g w).2.moment = w.moment := by
  cases hseen : scope.seen? g w.moment with
  | some st => rw [Scope.guard_turn_of_seen scope Inbox.next (w := w) hseen]
  | none =>
      rw [Scope.guard_turn_of_unseen scope Inbox.next (w := w) hseen]
      have hnext : ((Inbox.next (ρ := ρ)).turn g.inner w).2.moment = w.moment := rfl
      rcases hturn : (Inbox.next (ρ := ρ)).turn g.inner w with ⟨(_ | _) | _, w'⟩
      all_goals
        rw [hturn] at hnext
        exact hnext

/-! ## Services that answer at the end of their input -/

section Gathered

variable {ρ σ : Type} {scope : Scope} {step : σ → ρ → σ} {e : InputEnd}

/-- What a poll makes of a service that folds its input, where `total` is the fold over all
requests that have come: it fails with a triggered scope or with the input, it has the total at
the end of the input, or it waits with the total so far. -/
inductive Gathered (scope : Scope) (total : σ) (e : InputEnd) (m : Moment) :
    Turn (Collected σ) (Except Status σ) × Seat ρ → Prop
  | triggered {own : Status} {w : Seat ρ} (hmoment : w.moment = m)
      (h : scope.failure? m = some own) :
      Gathered scope total e m (.ready (.error own), w)
  | broken {st : Status} {w : Seat ρ} (hmoment : w.moment = m) (h : e.failure? = some st) :
      Gathered scope total e m (.ready (.error (scope.overrule m st)), w)
  | whole {w : Seat ρ} (hmoment : w.moment = m) (hover : e ≠ .ongoing)
      (h : e.failure? = none) :
      Gathered scope total e m (.ready (.ok total), w)
  | waits {w : Seat ρ} (hmoment : w.moment = m) (hongoing : e = .ongoing)
      (hinbox : w.inbox = unread [] e) : Gathered scope total e m
        (.waiting ⟨total, .racing ()⟩, w)

/-- The fuel of a poll is enough for all requests that have come. -/
theorem gathered_turnWithin {fuel : Nat} {c : Collected σ} {w : Seat ρ} {pending : List ρ}
    (hfuel : pending.length < fuel) (hinbox : w.inbox = unread pending e) :
    Gathered scope (pending.foldl step c.soFar) e w.moment
      (Collected.turnWithin scope step fuel c w) := by
  induction fuel generalizing pending c w with
  | zero => exact absurd hfuel (Nat.not_lt_zero _)
  | succ fuel ih =>
      rcases c with ⟨soFar, reading⟩
      cases hseen : scope.seen? reading w.moment with
      | some own =>
          have hturn := Scope.guard_turn_of_seen scope Inbox.next (w := w) hseen
          simp only [Collected.turnWithin, hturn]
          exact .triggered rfl (Scope.failure?_of_seen hseen)
      | none =>
          have hturn := Scope.guard_turn_of_unseen scope Inbox.next (w := w) hseen
          cases pending with
          | cons r rest =>
              rw [next_turn_cons hinbox] at hturn
              simp only [Collected.turnWithin, hturn, Scope.passOn]
              exact ih (c := .start (step soFar r))
                (w := { w with inbox := unread rest e }) (Nat.lt_of_succ_lt_succ hfuel) rfl
          | nil =>
              by_cases hongoing : e = .ongoing
              · subst hongoing
                rw [next_turn_ongoing hinbox] at hturn
                simp only [Collected.turnWithin, hturn, Scope.passOn]
                exact .waits rfl rfl hinbox
              · rw [next_turn_over hinbox hongoing] at hturn
                cases hfailure : e.failure? with
                | none =>
                    rw [hfailure] at hturn
                    simp only [Collected.turnWithin, hturn, Scope.passOn]
                    exact .whole rfl hongoing hfailure
                | some st =>
                    rw [hfailure] at hturn
                    simp only [Collected.turnWithin, hturn, Scope.passOn]
                    exact .broken rfl hfailure

/-- **What one poll makes of a service that answers at the end of its input.** -/
theorem gathered_turn (c : Collected σ) {w : Seat ρ} {pending : List ρ}
    (hinbox : w.inbox = unread pending e) :
    Gathered scope (pending.foldl step c.soFar) e w.moment
      ((Collected.operation scope step).turn c w) := by
  refine gathered_turnWithin ?_ hinbox
  rw [hinbox, unread, List.length_append, List.length_map]
  omega

/-- A poll takes no time. -/
theorem moment_collected_turn (c : Collected σ) (w : Seat ρ) :
    ((Collected.operation scope step).turn c w).2.moment = w.moment := by
  have hfuel : ∀ fuel (c : Collected σ) (w : Seat ρ),
      (Collected.turnWithin scope step fuel c w).2.moment = w.moment := by
    intro fuel
    induction fuel with
    | zero => exact fun _ _ => rfl
    | succ fuel ih =>
        intro c w
        have hread := moment_guarded_read scope c.reading w
        rcases hturn : (scope.guard Inbox.next).turn c.reading w with ⟨(_ | _ | r) | _, w'⟩
        · rw [hturn] at hread
          simpa only [Collected.turnWithin, hturn] using hread
        · rw [hturn] at hread
          simpa only [Collected.turnWithin, hturn] using hread
        · rw [hturn] at hread
          simp only [Collected.turnWithin, hturn]
          exact (ih _ w').trans hread
        · rw [hturn] at hread
          simpa only [Collected.turnWithin, hturn] using hread
  exact hfuel _ c w

/-- A signal that has been given and a timer that has fired come first. -/
theorem collected_turn_of_noticed {c : Collected σ} {w : Seat ρ} (h : scope.Noticed w.moment) :
    ∃ own, scope.failure? w.moment = some own ∧
      (Collected.operation scope step).turn c w = (.ready (.error own), w) := by
  have hseen := Scope.seen?_of_fired c.reading h
  have hturn := Scope.guard_turn_of_seen scope Inbox.next (w := w) hseen
  refine ⟨_, Scope.failure?_of_seen hseen, ?_⟩
  simp only [Collected.operation, Collected.turnWithin, hturn]

end Gathered

end RpcConformance
