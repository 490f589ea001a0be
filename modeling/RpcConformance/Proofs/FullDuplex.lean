import RpcConformance.Proofs.Dialogue

/-!
# A conversation that answers at once

A full-duplex conversation is in step with its client: a request is read when everything
before it has been answered.  The invariant `Engaged` says so for every point of every
schedule, and it is kept by whatever the client does and by every poll in an untriggered scope.

## Main results

* `engaged_turn` — what one poll makes of a conversation.
* `engaged_course` — where a conversation is after any schedule.
* `Engaged.follows`, `Engaged.inStep` — what it has said, and what it has read.
* `goes_on` — a conversation that is polled waits for its client only.
-/

namespace RpcConformance.FullDuplex

/-- The conversation as an operation that waits for the next item. -/
def next : Operation (Seat StreamingOutputRequest) FullDuplex (Item × FullDuplex) :=
  ⟨turn, alarm⟩

/-- The course of a conversation with a client that has sent nothing yet. -/
def course (scope : Scope) (m : Moment) (beats : List (Beat (ClientAct StreamingOutputRequest))) :
    Course (Seat StreamingOutputRequest) FullDuplex Item :=
  next.follow ClientAct.act (start scope) ⟨m, .empty⟩ beats

variable {scope : Scope} {c : ClientSide StreamingOutputRequest} {items : List Item}
  {phase : FullDuplexPhase} {w : Seat StreamingOutputRequest}

/-! ## The invariant -/

/-- **Where a conversation is that has given some items.**  It reads, and every request that
has been read is answered in full; or it answers the last request that has been read, and all
before it are answered; or a request has failed, or the input has ended, and only the end is
repeated. -/
inductive Engaged (scope : Scope) (c : ClientSide StreamingOutputRequest) :
    List Item → FullDuplexPhase → Seat StreamingOutputRequest → Prop
  | reading {read pending : List StreamingOutputRequest} {g : Scope.Guarded Unit}
      {w : Seat StreamingOutputRequest} (hrequests : c.requests = read ++ pending)
      (hinbox : w.inbox = unread pending c.ending) (hread : ∀ q ∈ read, q.failure? = none) :
      Engaged scope c (read.flatMap StreamingOutputRequest.responses) (.reading g) w
  | answering {earlier pending : List StreamingOutputRequest} {r : StreamingOutputRequest}
      {given : List Item} {s : OutputStream} {w : Seat StreamingOutputRequest}
      (hrequests : c.requests = (earlier ++ [r]) ++ pending)
      (hinbox : w.inbox = unread pending c.ending)
      (hearlier : ∀ q ∈ earlier, q.failure? = none)
      (hs : Followed scope r w.moment.now given s) :
      Engaged scope c (earlier.flatMap StreamingOutputRequest.responses ++ given)
        (.answering s) w
  | failed {earlier pending : List StreamingOutputRequest} {r : StreamingOutputRequest}
      {st : Status} {w : Seat StreamingOutputRequest} (again : Nat)
      (hrequests : c.requests = (earlier ++ [r]) ++ pending)
      (hinbox : w.inbox = unread pending c.ending)
      (hearlier : ∀ q ∈ earlier, q.failure? = none) (hr : r.failure? = some st) :
      Engaged scope c (earlier.flatMap StreamingOutputRequest.responses ++
        (r.responses ++ [.failed st]) ++ List.replicate again .finished) .ended w
  | closed {w : Seat StreamingOutputRequest} (again : Nat) (hover : c.ending ≠ .ongoing)
      (hinbox : w.inbox = unread [] .closed) (hread : ∀ q ∈ c.requests, q.failure? = none) :
      Engaged scope c (c.requests.flatMap StreamingOutputRequest.responses ++
        c.ending.closing ++ List.replicate again .finished) .ended w

theorem Engaged.act (h : Engaged scope c items phase w)
    (a : ClientAct StreamingOutputRequest) :
    Engaged scope (c.hear (.event a)) items phase (a.act w) := by
  cases h with
  | reading hrequests hinbox hread =>
      obtain ⟨pending', hrequests', hinbox'⟩ := unread_act hrequests hinbox a
      exact .reading hrequests' hinbox' hread
  | answering hrequests hinbox hearlier hs =>
      obtain ⟨pending', hrequests', hinbox'⟩ := unread_act hrequests hinbox a
      exact .answering hrequests' hinbox' hearlier (hs.mono (precedes_act a w).now)
  | failed again hrequests hinbox hearlier hr =>
      obtain ⟨pending', hrequests', hinbox'⟩ := unread_act hrequests hinbox a
      exact .failed again hrequests' hinbox' hearlier hr
  | closed again hover hinbox hread =>
      rw [ClientSide.hear_of_over hover]
      exact .closed again hover ((inbox_act_of_closed (by rw [hinbox]; rfl) a).trans hinbox) hread

/-- What has been given is the beginning of the dialogue, or all of it and its end once more. -/
theorem Engaged.follows (h : Engaged scope c items phase w) :
    items <+: c.dialogue ∨
      c.Settled ∧ ∃ again, items = c.dialogue ++ List.replicate again .finished := by
  cases h with
  | reading hrequests hinbox hread =>
      refine Or.inl ?_
      rw [ClientSide.dialogue, hrequests, conversation_append hread]
      exact List.prefix_append _ _
  | answering hrequests hinbox hearlier hs =>
      refine Or.inl ?_
      rw [ClientSide.dialogue, hrequests, List.append_assoc, conversation_append hearlier]
      refine (List.prefix_append_right_inj _).mpr ?_
      rw [List.singleton_append, conversation]
      exact hs.isPrefix.trans (List.prefix_append _ _)
  | @failed earlier pending r st _ again hrequests hinbox hearlier hr =>
      refine Or.inr ⟨Or.inr ⟨r, by rw [hrequests]; simp, by simp [hr]⟩, again, ?_⟩
      rw [ClientSide.dialogue, hrequests, List.append_assoc earlier, List.singleton_append,
        conversation_of_failure hearlier hr]
  | closed again hover hinbox hread =>
      refine Or.inr ⟨Or.inl hover, again, ?_⟩
      rw [ClientSide.dialogue, conversation_of_unfailing hread]

/-- **A request is read when all before it have been answered.**  Of the requests that are not
in the inbox any more, all but the last have had all of their responses. -/
theorem Engaged.inStep (h : Engaged scope c items phase w) :
    ∃ earlier last, c.requests = earlier ++ last ++ w.inbox.messages ∧ last.length ≤ 1 ∧
      earlier.flatMap StreamingOutputRequest.responses <+: items := by
  cases h with
  | @reading read pending g _ hrequests hinbox hread =>
      refine ⟨read, [], ?_, Nat.zero_le 1, List.prefix_refl _⟩
      rw [hinbox, messages_unread, List.append_nil]
      exact hrequests
  | @answering earlier pending r given s _ hrequests hinbox hearlier hs =>
      refine ⟨earlier, [r], ?_, Nat.le_refl 1, List.prefix_append _ _⟩
      rw [hinbox, messages_unread]
      exact hrequests
  | @failed earlier pending r st _ again hrequests hinbox hearlier hr =>
      refine ⟨earlier, [r], ?_, Nat.le_refl 1, ?_⟩
      · rw [hinbox, messages_unread]
        exact hrequests
      · rw [List.append_assoc]
        exact List.prefix_append _ _
  | closed again hover hinbox hread =>
      refine ⟨c.requests, [], ?_, Nat.zero_le 1, ?_⟩
      · rw [hinbox, messages_unread, List.append_nil, List.append_nil]
      · rw [List.append_assoc]
        exact List.prefix_append _ _

/-- Why a conversation waits: it has answered everything and its client goes on, or it is in a
pause. -/
inductive Stalled (c : ClientSide StreamingOutputRequest) (now : Instant) :
    List Item → FullDuplexPhase → Prop
  | listening {g : Scope.Guarded Unit} (hongoing : c.ending = .ongoing) :
      Stalled c now c.dialogue (.reading g)
  | pausing {items : List Item} {r : StreamingOutputRequest} {s : OutputStream}
      (hr : r ∈ c.requests) (hpaused : PausedIn r now s) : Stalled c now items (.answering s)

/-- What a poll of a conversation makes of it, after some items. -/
inductive Polled (scope : Scope) (c : ClientSide StreamingOutputRequest) (items : List Item)
    (m : Moment) :
    Turn FullDuplexPhase (Item × FullDuplexPhase) × Seat StreamingOutputRequest → Prop
  | waits {phase : FullDuplexPhase} {w : Seat StreamingOutputRequest} (hmoment : w.moment = m)
      (h : Engaged scope c items phase w) (hstalled : Stalled c m.now items phase) :
      Polled scope c items m (.waiting phase, w)
  | gives {item : Item} {phase : FullDuplexPhase} {w : Seat StreamingOutputRequest}
      (hmoment : w.moment = m) (h : Engaged scope c (items ++ [item]) phase w) :
      Polled scope c items m (.ready (item, phase), w)

/-- The rounds that a poll needs at most: two for each request that has arrived. -/
def rounds (phase : FullDuplexPhase) (w : Seat StreamingOutputRequest) : Nat :=
  match phase with
  | .reading _ => 2 * w.inbox.arrivals.length + 1
  | .answering _ => 2 * w.inbox.arrivals.length + 2
  | .ended => 1

/-! ## One poll -/

theorem length_arrivals_unread {ρ : Type} (r : ρ) (pending : List ρ) (e : InputEnd) :
    (unread (r :: pending) e).arrivals.length = (unread pending e).arrivals.length + 1 := rfl

/-- The guard of an untriggered scope reads on. -/
theorem guarded_read {g : Scope.Guarded Unit} (huntriggered : scope.failure? w.moment = none) :
    (scope.guard Inbox.next).turn g w =
      scope.passOn ((Inbox.next (ρ := StreamingOutputRequest)).turn () w) :=
  Scope.guard_turn_of_unseen scope Inbox.next (Scope.unseen_of_untriggered g huntriggered)

/-- Everything that has come has been answered. -/
theorem dialogue_of_read {read : List StreamingOutputRequest}
    (hrequests : c.requests = read ++ []) (hread : ∀ q ∈ read, q.failure? = none) :
    c.dialogue = read.flatMap StreamingOutputRequest.responses ++ c.ending.closing := by
  rw [List.append_nil] at hrequests
  rw [ClientSide.dialogue, hrequests, conversation_of_unfailing hread]

/-- The end of the input ends the conversation. -/
theorem polled_over {read : List StreamingOutputRequest} {item : Item}
    (hrequests : c.requests = read ++ []) (hread : ∀ q ∈ read, q.failure? = none)
    (hover : c.ending ≠ .ongoing) (hclosing : c.ending.closing = [item]) :
    Polled scope c (read.flatMap StreamingOutputRequest.responses) w.moment
      (.ready (item, .ended), { w with inbox := unread [] .closed }) := by
  rw [List.append_nil] at hrequests
  subst hrequests
  have hended : Engaged scope c (c.requests.flatMap StreamingOutputRequest.responses ++
      c.ending.closing ++ List.replicate 0 .finished) .ended
      { w with inbox := unread [] .closed } := .closed 0 hover rfl hread
  rw [hclosing, List.replicate_zero, List.append_nil] at hended
  exact .gives rfl hended

theorem polled_turnWithin {fuel : Nat} (hfuel : rounds phase w ≤ fuel)
    (huntriggered : scope.failure? w.moment = none) (h : Engaged scope c items phase w) :
    Polled scope c items w.moment (turnWithin scope fuel phase w) := by
  induction fuel generalizing phase w items with
  | zero => cases h <;> simp [rounds] at hfuel
  | succ fuel ih =>
      cases h with
      | @reading read pending g _ hrequests hinbox hread =>
          have hguard := guarded_read (g := g) huntriggered
          cases pending with
          | cons r rest =>
              rw [next_turn_cons hinbox] at hguard
              simp only [turnWithin, hguard, Scope.passOn]
              have hanswering : Engaged scope c
                  (read.flatMap StreamingOutputRequest.responses ++ [])
                  (.answering (.forRequest scope r))
                  { w with inbox := unread rest c.ending } :=
                .answering (by rw [hrequests, List.append_assoc, List.singleton_append]) rfl
                  hread (followed_start scope r w.moment.now)
              rw [List.append_nil] at hanswering
              refine ih (w := { w with inbox := unread rest c.ending }) ?_ huntriggered
                hanswering
              simp only [rounds, hinbox, length_arrivals_unread] at hfuel ⊢
              omega
          | nil =>
              by_cases hongoing : c.ending = .ongoing
              · rw [next_turn_ongoing (hongoing ▸ hinbox)] at hguard
                simp only [turnWithin, hguard, Scope.passOn]
                refine .waits rfl (.reading hrequests hinbox hread) ?_
                have hdialogue := dialogue_of_read hrequests hread
                rw [hongoing, InputEnd.closing, List.append_nil] at hdialogue
                rw [← hdialogue]
                exact .listening hongoing
              · rw [next_turn_over hinbox hongoing] at hguard
                cases hfailure : c.ending.failure? with
                | none =>
                    rw [hfailure] at hguard
                    simp only [turnWithin, hguard, Scope.passOn]
                    exact polled_over hrequests hread hongoing
                      (InputEnd.closing_of_over hongoing hfailure)
                | some st =>
                    rw [hfailure] at hguard
                    simp only [turnWithin, hguard, Scope.passOn]
                    have hown := Scope.overrule_of_untriggered st huntriggered
                    refine polled_over hrequests hread hongoing ?_
                    rw [InputEnd.closing_of_failure hfailure]
                    exact congrArg (fun st => [Item.failed st]) hown.symm
      | @answering earlier pending r given s _ hrequests hinbox hearlier hs =>
          rcases followed_turn huntriggered hs with
            ⟨s', hturn, hs', hpaused⟩ | ⟨p, s', hturn, hs'⟩ | ⟨st, s', hturn, hr, hgiven⟩ |
            ⟨s', hturn, hr, hgiven⟩
          · simp only [turnWithin, hturn]
            refine .waits rfl (.answering hrequests hinbox hearlier hs') (.pausing ?_ hpaused)
            rw [hrequests]
            simp
          · simp only [turnWithin, hturn]
            refine .gives rfl ?_
            rw [List.append_assoc]
            exact .answering hrequests hinbox hearlier hs'
          · simp only [turnWithin, hturn]
            refine .gives rfl ?_
            have hended : Engaged scope c (earlier.flatMap StreamingOutputRequest.responses ++
                (r.responses ++ [.failed st]) ++ List.replicate 0 .finished) .ended w :=
              .failed 0 hrequests hinbox hearlier hr
            rw [hgiven, List.replicate_zero, List.append_nil] at hended
            rwa [List.append_assoc]
          · simp only [turnWithin, hturn]
            have hreading : Engaged scope c
                ((earlier ++ [r]).flatMap StreamingOutputRequest.responses)
                (.reading (.fresh ())) w :=
              .reading hrequests hinbox (unfailing_concat hearlier hr)
            rw [List.flatMap_append, List.flatMap_singleton, hgiven] at hreading
            refine ih ?_ huntriggered hreading
            simp only [rounds] at hfuel ⊢
            omega
      | failed again hrequests hinbox hearlier hr =>
          simp only [turnWithin]
          refine .gives rfl ?_
          rw [List.append_assoc _ (List.replicate again _), ← List.replicate_succ']
          exact .failed (again + 1) hrequests hinbox hearlier hr
      | closed again hover hinbox hread =>
          simp only [turnWithin]
          refine .gives rfl ?_
          rw [List.append_assoc _ (List.replicate again _), ← List.replicate_succ']
          exact .closed (again + 1) hover hinbox hread

/-- A poll takes no time. -/
theorem moment_turnWithin (scope : Scope) (fuel : Nat) (phase : FullDuplexPhase)
    (w : Seat StreamingOutputRequest) :
    (turnWithin scope fuel phase w).2.moment = w.moment := by
  induction fuel generalizing phase w with
  | zero => rfl
  | succ fuel ih =>
      cases phase with
      | ended => rfl
      | reading g =>
          have hread := moment_guarded_read scope g w
          rcases hturn : (scope.guard Inbox.next).turn g w with ⟨(_ | _ | r) | _, w'⟩
          · rw [hturn] at hread
            simpa only [turnWithin, hturn] using hread
          · rw [hturn] at hread
            simpa only [turnWithin, hturn] using hread
          · rw [hturn] at hread
            simp only [turnWithin, hturn]
            exact (ih _ w').trans hread
          · rw [hturn] at hread
            simpa only [turnWithin, hturn] using hread
      | answering s =>
          rcases hturn : s.turn w.moment with ⟨(_ | _ | _), s'⟩ | s'
          · simp only [turnWithin, hturn]
          · simp only [turnWithin, hturn]
          · simp only [turnWithin, hturn]
            exact ih _ w
          · simp only [turnWithin, hturn]

/-- **What one poll makes of a conversation**, in an untriggered scope. -/
theorem engaged_turn (huntriggered : scope.failure? w.moment = none)
    (h : Engaged scope c items phase w) :
    Polled scope c items w.moment
      (turnWithin scope (2 * w.inbox.arrivals.length + 3) phase w) := by
  refine polled_turnWithin ?_ huntriggered h
  cases phase <;> simp only [rounds] <;> omega

/-! ## Every schedule -/

/-- A conversation in a course, with what its client has sent. -/
def At (scope : Scope) (c : ClientSide StreamingOutputRequest)
    (course : Course (Seat StreamingOutputRequest) FullDuplex Item) : Prop :=
  ∃ phase, course.state = ⟨scope, phase⟩ ∧
    Engaged scope c (course.items.map Prod.fst) phase course.world

theorem moment_poll (course : Course (Seat StreamingOutputRequest) FullDuplex Item) :
    (next.courseBeat ClientAct.act course .poll).world.moment = course.world.moment := by
  have hmoment := moment_turnWithin course.state.scope
    (2 * course.world.inbox.arrivals.length + 3) course.state.phase course.world
  simp only [Operation.courseBeat, next, turn]
  rcases hturn : turnWithin course.state.scope
    (2 * course.world.inbox.arrivals.length + 3) course.state.phase course.world
    with ⟨⟨item, phase⟩ | phase, w'⟩
  · rw [hturn] at hmoment
    exact hmoment
  · rw [hturn] at hmoment
    exact hmoment

theorem At.poll {course : Course (Seat StreamingOutputRequest) FullDuplex Item}
    (huntriggered : scope.failure? course.world.moment = none) (h : At scope c course) :
    At scope c (next.courseBeat ClientAct.act course .poll) := by
  rcases course with ⟨items, state, w⟩
  obtain ⟨phase, hstate, hengaged⟩ := h
  dsimp only at hstate hengaged huntriggered
  subst hstate
  have hpolled := engaged_turn huntriggered hengaged
  simp only [Operation.courseBeat, next, turn]
  generalize turnWithin scope (2 * w.inbox.arrivals.length + 3) phase w = turned at hpolled ⊢
  cases hpolled with
  | waits hmoment h hstalled => exact ⟨_, rfl, h⟩
  | gives hmoment h =>
      refine ⟨_, rfl, ?_⟩
      rw [List.map_append]
      exact h

/-- **Where a conversation is after any schedule** that has not triggered its scope. -/
theorem engaged_course (scope : Scope) (m : Moment)
    (beats : List (Beat (ClientAct StreamingOutputRequest)))
    (huntriggered : scope.failure? (course scope m beats).world.moment = none) :
    At scope (ClientSide.sent beats) (course scope m beats) := by
  refine Operation.follow_induction_within (P := fun beats => At scope (ClientSide.sent beats))
    (Q := fun w => scope.failure? w.moment = none) ?_ ?_ ?_ beats huntriggered
  · exact ⟨_, rfl, @Engaged.reading scope {} [] [] _ _ rfl rfl (by simp)⟩
  · intro c b hafter
    cases b with
    | poll => rwa [moment_poll] at hafter
    | event a => exact untriggered_of_act hafter
  · intro beats b c hafter h
    rw [ClientSide.sent_concat]
    cases b with
    | poll =>
        rw [moment_poll] at hafter
        rw [ClientSide.hear_poll]
        exact h.poll hafter
    | event a =>
        obtain ⟨phase, hstate, hengaged⟩ := h
        exact ⟨phase, hstate, hengaged.act a⟩

/-! ## A conversation does not stand still -/

theorem course_append (scope : Scope) (m : Moment)
    (beats more : List (Beat (ClientAct StreamingOutputRequest))) :
    course scope m (beats ++ more) =
      more.foldl (next.courseBeat ClientAct.act) (course scope m beats) :=
  Operation.follow_append beats more

/-- The end of a pause brings an item. -/
theorem turnWithin_of_ready (scope : Scope) (fuel : Nat) {s s' : OutputStream} {i : Item}
    (hturn : s.turn w.moment = .ready (i, s')) (hi : i ≠ .finished) :
    ∃ phase, turnWithin scope (fuel + 1) (.answering s) w = (.ready (i, phase), w) := by
  cases i with
  | finished => exact absurd rfl hi
  | response p => exact ⟨.answering s', by simp only [turnWithin, hturn]⟩
  | failed st => exact ⟨.ended, by simp only [turnWithin, hturn]⟩

/-- **A conversation that is polled waits for its client only.**  Time for the longest pause,
with a poll before it and one after it, brings another item, unless everything has been
answered and the client goes on. -/
theorem goes_on (scope : Scope) (m : Moment)
    (beats : List (Beat (ClientAct StreamingOutputRequest))) (gap : Gap)
    (huntriggered : scope.failure? (course scope m beats).world.moment = none)
    (hgap : ∀ r ∈ (ClientSide.sent beats).requests, ∀ p ∈ r.parameters,
      1000 * p.intervalMicros.toNat + 999999 ≤ gap.elapsed.nanos) :
    ((ClientSide.sent beats).ending = .ongoing ∧
      (course scope m beats).items.map Prod.fst = (ClientSide.sent beats).dialogue) ∨
    (course scope m beats).items.length <
      (course scope m (beats ++ [.poll, .event (.pass gap), .poll])).items.length := by
  obtain ⟨phase, hstate, hengaged⟩ := engaged_course scope m beats huntriggered
  rw [course_append]
  generalize course scope m beats = c at huntriggered hstate hengaged ⊢
  rcases c with ⟨items, state, w⟩
  dsimp only at huntriggered hstate hengaged
  subst hstate
  have hpolled := engaged_turn huntriggered hengaged
  rcases hturned : turnWithin scope (2 * w.inbox.arrivals.length + 3) phase w with ⟨t, w'⟩
  rw [hturned] at hpolled
  cases hpolled with
  | @gives item phase' _ hmoment h =>
      refine Or.inr (Operation.length_lt_of_event (Or.inl ⟨item, ⟨scope, phase'⟩, w', ?_⟩))
      simp only [next, turn, hturned]
  | @waits phase' _ hmoment h hstalled =>
      generalize hgiven : items.map Prod.fst = given at hstalled
      cases hstalled with
      | listening hongoing => exact Or.inl ⟨hongoing, rfl⟩
      | @pausing _ r s hr hpaused =>
          have hlong : ∀ p ∈ r.parameters, w.moment.now.nanos + p.interval.nanos + 999999 ≤
              (w'.moment.after gap).now.nanos := by
            intro p hp
            have hp' := hgap r hr p hp
            rw [hmoment, p.interval_nanos]
            show _ ≤ w.moment.now.nanos + gap.elapsed.nanos
            omega
          obtain ⟨i, s', hturn, hi⟩ := turn_of_pausedIn hpaused hlong
          obtain ⟨phase'', hready⟩ := turnWithin_of_ready scope
            (2 * w'.inbox.arrivals.length + 2) (w := { w' with moment := w'.moment.after gap })
            hturn hi
          refine Or.inr (Operation.length_lt_of_event (Or.inr
            ⟨⟨scope, .answering s⟩, w', ?_, i, ⟨scope, phase''⟩,
              { w' with moment := w'.moment.after gap }, ?_⟩))
          · simp only [next, turn, hturned]
          · simp only [next, turn, ClientAct.act, hready]

end RpcConformance.FullDuplex
