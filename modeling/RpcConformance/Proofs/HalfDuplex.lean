import RpcConformance.Proofs.Dialogue

/-!
# A conversation that answers at the end of its input

A half-duplex conversation reads all of its input before it answers anything.  Until then it
gives nothing at all, and an input that fails or a scope that is triggered in that time leaves
it a single failure to give.  From then on it replays the dialogue.

The instant of the deadline counts where the replay begins, the deadline's timer while the
conversation listens.  In the millisecond between the two a conversation can still come to the
end of its input; it answers nothing then either, and it ends without a failure only if nothing
was asked of it.

## Main results

* `held_turn` — what one poll makes of a conversation in an untriggered scope.
* `hushed_turn` — what it makes of one whose input fails, goes on, or comes too late.
* `held_course`, `quiet_course`, `quiet_after_trigger` — where a conversation is after any
  schedule.
-/

namespace RpcConformance.HalfDuplex

/-- The conversation as an operation that waits for the next item. -/
def next : Operation (Seat StreamingOutputRequest) HalfDuplex (Item × HalfDuplex) :=
  ⟨turn, alarm⟩

/-- The course of a conversation with a client that has sent nothing yet. -/
def course (scope : Scope) (m : Moment) (beats : List (Beat (ClientAct StreamingOutputRequest))) :
    Course (Seat StreamingOutputRequest) HalfDuplex Item :=
  next.follow ClientAct.act (start scope) ⟨m, .empty⟩ beats

variable {scope : Scope} {c : ClientSide StreamingOutputRequest} {items : List Item}
  {phase : HalfDuplexPhase} {w : Seat StreamingOutputRequest}

/-! ## The invariant in an untriggered scope -/

/-- **Where a conversation is that has given some items.**  It listens, and nothing has been
given; or its input has ended, and it answers one request, with all before it answered; or
everything has been said, and only the end is repeated. -/
inductive Held (scope : Scope) (c : ClientSide StreamingOutputRequest) :
    List Item → HalfDuplexPhase → Seat StreamingOutputRequest → Prop
  | listening {read pending : List StreamingOutputRequest} {g : Scope.Guarded Unit}
      {w : Seat StreamingOutputRequest} (hrequests : c.requests = read ++ pending)
      (hinbox : w.inbox = unread pending c.ending) :
      Held scope c [] (.buffering ⟨read, g⟩) w
  | answering {earlier rest : List StreamingOutputRequest} {r : StreamingOutputRequest}
      {given : List Item} {s : OutputStream} {w : Seat StreamingOutputRequest}
      (hover : c.ending ≠ .ongoing) (hno : c.ending.failure? = none)
      (hrequests : c.requests = earlier ++ r :: rest)
      (hearlier : ∀ q ∈ earlier, q.failure? = none)
      (hs : Followed scope r w.moment.now given s) :
      Held scope c (earlier.flatMap StreamingOutputRequest.responses ++ given)
        (.answering s rest) w
  | ended {w : Seat StreamingOutputRequest} (again : Nat) (hover : c.ending ≠ .ongoing) :
      Held scope c (c.replay ++ List.replicate again .finished) .ended w

theorem Held.act (h : Held scope c items phase w) (a : ClientAct StreamingOutputRequest) :
    Held scope (c.hear (.event a)) items phase (a.act w) := by
  cases h with
  | listening hrequests hinbox =>
      obtain ⟨pending', hrequests', hinbox'⟩ := unread_act hrequests hinbox a
      exact .listening hrequests' hinbox'
  | answering hover hno hrequests hearlier hs =>
      rw [ClientSide.hear_of_over hover]
      exact .answering hover hno hrequests hearlier (hs.mono (precedes_act a w).now)
  | ended again hover =>
      rw [ClientSide.hear_of_over hover]
      exact .ended again hover

/-- What has been given is the beginning of the replay, or all of it and its end once more. -/
theorem Held.follows (h : Held scope c items phase w) :
    items <+: c.replay ∨
      c.ending ≠ .ongoing ∧ ∃ again, items = c.replay ++ List.replicate again .finished := by
  cases h with
  | listening hrequests hinbox => exact Or.inl List.nil_prefix
  | answering hover hno hrequests hearlier hs =>
      refine Or.inl ?_
      rw [ClientSide.replay_eq_dialogue hover hno, ClientSide.dialogue, hrequests,
        conversation_append hearlier, conversation]
      refine (List.prefix_append_right_inj _).mpr ?_
      exact hs.isPrefix.trans (List.prefix_append _ _)
  | ended again hover => exact Or.inr ⟨hover, again, rfl⟩

/-- Why a conversation waits: its client goes on, or it is in a pause. -/
inductive Stalled (c : ClientSide StreamingOutputRequest) (now : Instant) :
    HalfDuplexPhase → Prop
  | listening {state : Collected (List StreamingOutputRequest)} (hongoing : c.ending = .ongoing) :
      Stalled c now (.buffering state)
  | pausing {r : StreamingOutputRequest} {rest : List StreamingOutputRequest}
      {s : OutputStream} (hr : r ∈ c.requests) (hpaused : PausedIn r now s) :
      Stalled c now (.answering s rest)

/-- What a poll of a conversation makes of it, after some items. -/
inductive Polled (scope : Scope) (c : ClientSide StreamingOutputRequest) (items : List Item)
    (m : Moment) :
    Turn HalfDuplexPhase (Item × HalfDuplexPhase) × Seat StreamingOutputRequest → Prop
  | waits {phase : HalfDuplexPhase} {w : Seat StreamingOutputRequest} (hmoment : w.moment = m)
      (h : Held scope c items phase w) (hstalled : Stalled c m.now phase) :
      Polled scope c items m (.waiting phase, w)
  | gives {item : Item} {phase : HalfDuplexPhase} {w : Seat StreamingOutputRequest}
      (hmoment : w.moment = m) (h : Held scope c (items ++ [item]) phase w) :
      Polled scope c items m (.ready (item, phase), w)

/-! ## One poll in an untriggered scope -/

/-- The replay goes on behind the responses to a request. -/
theorem answer_eq (scope : Scope) (m : Moment) (s : OutputStream)
    (rest : List StreamingOutputRequest) :
    answer scope m s rest = match s.turn m with
      | .waiting s => .waiting (.answering s rest)
      | .ready (.response p, s) => .ready (.response p, .answering s rest)
      | .ready (.failed st, _) => .ready (.failed st, .ended)
      | .ready (.finished, _) => answerAll scope m rest := by
  unfold answer
  rcases s.turn m with ⟨(_ | _ | _), s'⟩ | s'
  · rfl
  · rfl
  · cases rest <;> rfl
  · rfl

section Replay

variable {earlier rest : List StreamingOutputRequest} {r : StreamingOutputRequest}
  {given : List Item} {s : OutputStream}

/-- The replay has come to its end. -/
theorem held_ended {item : Item} (hover : c.ending ≠ .ongoing)
    (hreplay : c.replay = items ++ [item]) : Held scope c (items ++ [item]) .ended w := by
  have hended : Held scope c (c.replay ++ List.replicate 0 .finished) .ended w := .ended 0 hover
  rwa [List.replicate_zero, List.append_nil, hreplay] at hended

/-- The replay from a request on, with what follows it. -/
theorem polled_answer_of_rest (huntriggered : scope.failure? w.moment = none)
    (hover : c.ending ≠ .ongoing) (hno : c.ending.failure? = none)
    (hrequests : c.requests = earlier ++ r :: rest)
    (hearlier : ∀ q ∈ earlier, q.failure? = none)
    (hs : Followed scope r w.moment.now given s)
    (hrest : r.failure? = none →
      Polled scope c ((earlier ++ [r]).flatMap StreamingOutputRequest.responses) w.moment
        (answerAll scope w.moment rest, w)) :
    Polled scope c (earlier.flatMap StreamingOutputRequest.responses ++ given) w.moment
      (answer scope w.moment s rest, w) := by
  rw [answer_eq]
  rcases followed_turn huntriggered hs with
    ⟨s', hturn, hs', hpaused⟩ | ⟨p, s', hturn, hs'⟩ | ⟨st, s', hturn, hr, hgiven⟩ |
    ⟨s', hturn, hr, hgiven⟩
  · rw [hturn]
    exact .waits rfl (.answering hover hno hrequests hearlier hs')
      (.pausing (by rw [hrequests]; simp) hpaused)
  · rw [hturn]
    refine .gives rfl ?_
    rw [List.append_assoc]
    exact .answering hover hno hrequests hearlier hs'
  · rw [hturn]
    refine .gives rfl (held_ended hover ?_)
    rw [ClientSide.replay_eq_dialogue hover hno, ClientSide.dialogue, hrequests,
      conversation_of_failure hearlier hr, hgiven, List.append_assoc]
  · rw [hturn]
    have hfollowing := hrest hr
    rw [List.flatMap_append, List.flatMap_singleton, hgiven] at hfollowing
    exact hfollowing

/-- The replay of some requests, when those before them have been answered. -/
theorem polled_answerAll (huntriggered : scope.failure? w.moment = none)
    (hover : c.ending ≠ .ongoing) (hno : c.ending.failure? = none)
    (hrequests : c.requests = earlier ++ rest) (hearlier : ∀ q ∈ earlier, q.failure? = none) :
    Polled scope c (earlier.flatMap StreamingOutputRequest.responses) w.moment
      (answerAll scope w.moment rest, w) := by
  induction rest generalizing earlier with
  | nil =>
      refine .gives rfl (held_ended hover ?_)
      rw [List.append_nil] at hrequests
      rw [ClientSide.replay_eq_dialogue hover hno, ClientSide.dialogue, hrequests,
        conversation_of_unfailing hearlier, InputEnd.closing_of_over hover hno]
  | cons q rest ih =>
      have hanswer := polled_answer_of_rest huntriggered hover hno hrequests hearlier
        (followed_start scope q w.moment.now) fun hq => ih
          (by rw [hrequests, List.append_assoc, List.singleton_append])
          (unfailing_concat hearlier hq)
      rwa [List.append_nil] at hanswer

theorem polled_answer (huntriggered : scope.failure? w.moment = none)
    (hover : c.ending ≠ .ongoing) (hno : c.ending.failure? = none)
    (hrequests : c.requests = earlier ++ r :: rest)
    (hearlier : ∀ q ∈ earlier, q.failure? = none)
    (hs : Followed scope r w.moment.now given s) :
    Polled scope c (earlier.flatMap StreamingOutputRequest.responses ++ given) w.moment
      (answer scope w.moment s rest, w) := by
  refine polled_answer_of_rest huntriggered hover hno hrequests hearlier hs fun hr => ?_
  exact polled_answerAll huntriggered hover hno
    (by rw [hrequests, List.append_assoc, List.singleton_append])
    (unfailing_concat hearlier hr)

end Replay

theorem foldl_concat {ρ : Type} (requests more : List ρ) :
    more.foldl (fun soFar r => soFar ++ [r]) requests = requests ++ more := by
  induction more generalizing requests with
  | nil => exact (List.append_nil requests).symm
  | cons r more ih => rw [List.foldl_cons, ih, List.append_assoc, List.singleton_append]

/-- What a poll makes of the requests that are buffered. -/
theorem gathered_buffer (scope : Scope) (g : Scope.Guarded Unit)
    {read pending : List StreamingOutputRequest} (hrequests : c.requests = read ++ pending)
    (hinbox : w.inbox = unread pending c.ending) :
    Gathered scope c.requests c.ending w.moment ((buffer scope).turn ⟨read, g⟩ w) := by
  have hgathered : Gathered scope (pending.foldl (fun requests r => requests ++ [r]) read)
      c.ending w.moment ((buffer scope).turn ⟨read, g⟩ w) :=
    gathered_turn ⟨read, g⟩ hinbox
  rw [foldl_concat, ← hrequests] at hgathered
  exact hgathered

/-- **What one poll makes of a conversation**, in an untriggered scope. -/
theorem held_turn (huntriggered : scope.failure? w.moment = none)
    (h : Held scope c items phase w) :
    Polled scope c items w.moment (phaseTurn scope phase w) := by
  cases h with
  | @listening read pending g _ hrequests hinbox =>
      have hgathered := gathered_buffer scope g hrequests hinbox
      simp only [phaseTurn]
      generalize (buffer scope).turn ⟨read, g⟩ w = turned at hgathered
      cases hgathered with
      | triggered hmoment hown => rw [huntriggered] at hown; cases hown
      | @broken st w' hmoment hfailure =>
          have hover : c.ending ≠ .ongoing := by
            intro hongoing
            rw [hongoing] at hfailure
            cases hfailure
          rw [Scope.overrule_of_untriggered st huntriggered]
          have hheld : Held scope c ([] ++ [.failed st]) .ended w' :=
            held_ended hover (ClientSide.replay_of_failure hfailure)
          exact .gives hmoment hheld
      | @whole w' hmoment hover hno =>
          rw [← hmoment] at huntriggered ⊢
          have hrequests' : c.requests = [] ++ c.requests := rfl
          exact polled_answerAll huntriggered hover hno hrequests' (by simp)
      | waits hmoment hongoing hinbox' =>
          exact .waits hmoment (.listening (List.append_nil _).symm hinbox')
            (.listening hongoing)
  | answering hover hno hrequests hearlier hs =>
      simp only [phaseTurn]
      exact polled_answer huntriggered hover hno hrequests hearlier hs
  | ended again hover =>
      simp only [phaseTurn]
      refine .gives rfl ?_
      rw [List.append_assoc, ← List.replicate_succ']
      exact .ended (again + 1) hover

/-! ## A conversation that comes to nothing -/

/-- A request that asks for nothing: no response, and no status. -/
def Blank (r : StreamingOutputRequest) : Prop := r.parameters = [] ∧ r.failure? = none

/-- A stream that begins in a triggered scope gives no response. -/
theorem triggered_turn {m : Moment} {own : Status} (htriggered : scope.failure? m = some own)
    (r : StreamingOutputRequest) :
    (∃ st s', (OutputStream.forRequest scope r).turn m = .ready (.failed st, s')) ∨
      ∃ s', (OutputStream.forRequest scope r).turn m = .ready (.finished, s') ∧ Blank r := by
  rcases answerable_or_fault r.responseType r.parameters with hanswerable | ⟨st, hfault⟩
  · have hturn : (OutputStream.forRequest scope r).turn m =
        (OutputStream.forRequest scope r).advance none m := by
      simp only [OutputStream.turn, OutputStream.forRequest, OutputStream.start,
        admitRequest_of_answerable hanswerable]
    rw [hturn]
    cases hparameters : r.parameters with
    | nil =>
        rw [OutputStream.advance_nil hparameters]
        have hfailure := StreamingOutputRequest.failure?_of_answerable hanswerable
        simp only [OutputStream.forRequest, OutputStream.start]
        cases hstatus : requestedStatus? r.responseStatus with
        | some st => exact Or.inl ⟨st, _, rfl⟩
        | none => exact Or.inr ⟨_, rfl, hparameters, hfailure.trans hstatus⟩
    | cons p rest =>
        have hsize : 0 ≤ p.size :=
          (hanswerable.2 p (hparameters ▸ List.mem_cons_self)).1
        rcases OutputStream.advance_cons (s := .forRequest scope r) hparameters hanswerable.1
          hsize none m with ⟨st, _, hadvance⟩ | ⟨hnone, _, _⟩ | ⟨hunseen, _, _⟩
        · exact Or.inl ⟨st, _, hadvance⟩
        · rw [show scope.failure? m = none from hnone] at htriggered
          cases htriggered
        · rw [show scope.failure? m = none from hunseen] at htriggered
          cases htriggered
  · have hturn : (OutputStream.forRequest scope r).turn m =
        .ready ((OutputStream.forRequest scope r).failWith st) := by
      simp only [OutputStream.turn, OutputStream.forRequest, OutputStream.start,
        admitRequest_of_fault hfault]
    exact Or.inl ⟨st, _, hturn⟩

/-- A replay that begins in a triggered scope fails, unless nothing is asked for. -/
theorem answerAll_triggered {m : Moment} {own : Status}
    (htriggered : scope.failure? m = some own) (requests : List StreamingOutputRequest) :
    (∃ st, answerAll scope m requests = .ready (.failed st, .ended)) ∨
      (answerAll scope m requests = .ready (.finished, .ended) ∧ ∀ r ∈ requests, Blank r) := by
  induction requests with
  | nil => exact Or.inr ⟨rfl, by simp⟩
  | cons r rest ih =>
      rw [answerAll, answer_eq]
      rcases triggered_turn htriggered r with ⟨st, s', hturn⟩ | ⟨s', hturn, hblank⟩
      · rw [hturn]
        exact Or.inl ⟨st, rfl⟩
      · rw [hturn]
        rcases ih with hfailed | ⟨hfinished, hall⟩
        · exact Or.inl hfailed
        · exact Or.inr ⟨hfinished, List.forall_mem_cons.mpr ⟨hblank, hall⟩⟩

/-- **Where a conversation is that comes to nothing.**  It listens, and nothing has been given,
or it has failed, once. -/
inductive Quiet (c : ClientSide StreamingOutputRequest) :
    List Item → HalfDuplexPhase → Seat StreamingOutputRequest → Prop
  | listening {read pending : List StreamingOutputRequest} {g : Scope.Guarded Unit}
      {w : Seat StreamingOutputRequest} (hrequests : c.requests = read ++ pending)
      (hinbox : w.inbox = unread pending c.ending) : Quiet c [] (.buffering ⟨read, g⟩) w
  | failed {w : Seat StreamingOutputRequest} (st : Status) (again : Nat) :
      Quiet c (.failed st :: List.replicate again .finished) .ended w

theorem Quiet.act (h : Quiet c items phase w) (a : ClientAct StreamingOutputRequest) :
    Quiet (c.hear (.event a)) items phase (a.act w) := by
  cases h with
  | listening hrequests hinbox =>
      obtain ⟨pending', hrequests', hinbox'⟩ := unread_act hrequests hinbox a
      exact .listening hrequests' hinbox'
  | failed st again => exact .failed st again

/-- What a poll makes of such a conversation: it waits for a client that goes on, in a scope
of which nothing can be noticed; it fails, or repeats its end; or it ends at once, with nothing
asked of it, in the millisecond before the timer. -/
inductive Hushed (scope : Scope) (c : ClientSide StreamingOutputRequest) (m : Moment) :
    List Item → Turn HalfDuplexPhase (Item × HalfDuplexPhase) × Seat StreamingOutputRequest →
      Prop
  | waits {items : List Item} {phase : HalfDuplexPhase} {w : Seat StreamingOutputRequest}
      (hmoment : w.moment = m) (hongoing : c.ending = .ongoing) (hunnoticed : ¬scope.Noticed m)
      (h : Quiet c items phase w) : Hushed scope c m items (.waiting phase, w)
  | gives {items : List Item} {item : Item} {phase : HalfDuplexPhase}
      {w : Seat StreamingOutputRequest} (hmoment : w.moment = m)
      (h : Quiet c (items ++ [item]) phase w) : Hushed scope c m items (.ready (item, phase), w)
  | ends {w : Seat StreamingOutputRequest} (hmoment : w.moment = m)
      (hunnoticed : ¬scope.Noticed m) (hover : c.ending ≠ .ongoing)
      (hno : c.ending.failure? = none) (hblank : ∀ r ∈ c.requests, Blank r) :
      Hushed scope c m [] (.ready (.finished, .ended), w)

/-- **What one poll makes of a conversation** whose client goes on, whose input fails, or whose
scope has been triggered. -/
theorem hushed_turn (hcause : c.ending = .ongoing ∨ c.ending.failure? ≠ none ∨
      scope.failure? w.moment ≠ none)
    (h : Quiet c items phase w) : Hushed scope c w.moment items (phaseTurn scope phase w) := by
  cases h with
  | failed st again =>
      simp only [phaseTurn]
      refine .gives rfl ?_
      rw [List.cons_append, ← List.replicate_succ']
      exact .failed st (again + 1)
  | @listening read pending g _ hrequests hinbox =>
      have hfails : ∀ st (w' : Seat StreamingOutputRequest), w'.moment = w.moment →
          Hushed scope c w.moment [] (.ready (.failed st, .ended), w') :=
        fun st w' hmoment => .gives hmoment (.failed st 0)
      simp only [phaseTurn]
      by_cases hnoticed : scope.Noticed w.moment
      · have hbuffer : ∃ own, scope.failure? w.moment = some own ∧
            (buffer scope).turn ⟨read, g⟩ w = (.ready (.error own), w) :=
          collected_turn_of_noticed hnoticed
        obtain ⟨own, _, hturn⟩ := hbuffer
        rw [hturn]
        exact hfails own w rfl
      · have hgathered := gathered_buffer scope g hrequests hinbox
        generalize (buffer scope).turn ⟨read, g⟩ w = turned at hgathered
        cases hgathered with
        | triggered hmoment hown => exact hfails _ _ hmoment
        | broken hmoment hfailure => exact hfails _ _ hmoment
        | waits hmoment hongoing hinbox' =>
            exact .waits hmoment hongoing hnoticed
              (.listening (List.append_nil _).symm hinbox')
        | @whole w' hmoment hover hno =>
            rcases hcause with hongoing | hfailing | htriggered
            · exact absurd hongoing hover
            · exact absurd hno hfailing
            · cases hown : scope.failure? w'.moment with
              | none =>
                  rw [hmoment] at hown
                  exact absurd hown htriggered
              | some own =>
                  dsimp only
                  rcases answerAll_triggered hown c.requests with ⟨st, hanswer⟩ |
                    ⟨hanswer, hblank⟩
                  · rw [hanswer]
                    exact hfails st w' hmoment
                  · rw [hanswer]
                    exact .ends hmoment hnoticed hover hno hblank

/-- A conversation that comes to nothing, or that has ended with nothing asked of it. -/
inductive Barren (c : ClientSide StreamingOutputRequest) :
    List Item → HalfDuplexPhase → Seat StreamingOutputRequest → Prop
  | quiet {items : List Item} {phase : HalfDuplexPhase} {w : Seat StreamingOutputRequest}
      (h : Quiet c items phase w) : Barren c items phase w
  | finished {w : Seat StreamingOutputRequest} (again : Nat) (hover : c.ending ≠ .ongoing)
      (hblank : ∀ r ∈ c.requests, Blank r) :
      Barren c (List.replicate (again + 1) .finished) .ended w

theorem Barren.act (h : Barren c items phase w) (a : ClientAct StreamingOutputRequest) :
    Barren (c.hear (.event a)) items phase (a.act w) := by
  cases h with
  | quiet h => exact .quiet (h.act a)
  | finished again hover hblank =>
      rw [ClientSide.hear_of_over hover]
      exact .finished again hover hblank

/-! ## Every schedule -/

section Courses

variable {course : Course (Seat StreamingOutputRequest) HalfDuplex Item}

/-- A conversation in a course, where something holds. -/
def At (scope : Scope) (P : List Item → HalfDuplexPhase → Seat StreamingOutputRequest → Prop)
    (course : Course (Seat StreamingOutputRequest) HalfDuplex Item) : Prop :=
  ∃ phase, course.state = ⟨scope, phase⟩ ∧ P (course.items.map Prod.fst) phase course.world

/-- A poll leads to where something holds. -/
inductive Leads (P : List Item → HalfDuplexPhase → Seat StreamingOutputRequest → Prop)
    (items : List Item) :
    Turn HalfDuplexPhase (Item × HalfDuplexPhase) × Seat StreamingOutputRequest → Prop
  | waits {phase : HalfDuplexPhase} {w : Seat StreamingOutputRequest} (h : P items phase w) :
      Leads P items (.waiting phase, w)
  | gives {item : Item} {phase : HalfDuplexPhase} {w : Seat StreamingOutputRequest}
      (h : P (items ++ [item]) phase w) : Leads P items (.ready (item, phase), w)

theorem At.poll {P Q : List Item → HalfDuplexPhase → Seat StreamingOutputRequest → Prop}
    (h : At scope P course)
    (hleads : ∀ items phase, P items phase course.world →
      Leads Q items (phaseTurn scope phase course.world)) :
    At scope Q (next.courseBeat ClientAct.act course .poll) := by
  rcases course with ⟨items, state, w⟩
  obtain ⟨phase, hstate, hat⟩ := h
  dsimp only at hstate hat hleads
  subst hstate
  have hturned := hleads _ phase hat
  simp only [Operation.courseBeat, next, turn]
  generalize phaseTurn scope phase w = turned at hturned
  cases hturned with
  | waits h => exact ⟨_, rfl, h⟩
  | gives h =>
      refine ⟨_, rfl, ?_⟩
      rw [List.map_append]
      exact h

/-- A poll that is ready adds an item. -/
theorem At.length_lt {P : List Item → HalfDuplexPhase → Seat StreamingOutputRequest → Prop}
    (h : At scope P course)
    (hready : ∀ items phase, P items phase course.world →
      ∃ item phase' w', phaseTurn scope phase course.world = (.ready (item, phase'), w')) :
    course.items.length < (next.courseBeat ClientAct.act course .poll).items.length := by
  rcases course with ⟨items, state, w⟩
  obtain ⟨phase, hstate, hat⟩ := h
  dsimp only at hstate hat hready
  subst hstate
  obtain ⟨item, phase', w', hturn⟩ := hready _ phase hat
  have hready : next.turn ⟨scope, phase⟩ w = (.ready (item, ⟨scope, phase'⟩), w') := by
    simp only [next, turn, hturn]
  exact Operation.length_lt_of_ready ClientAct.act hready

/-- A poll takes no time. -/
theorem moment_phaseTurn (scope : Scope) (phase : HalfDuplexPhase)
    (w : Seat StreamingOutputRequest) : (phaseTurn scope phase w).2.moment = w.moment := by
  cases phase with
  | ended => rfl
  | answering s rest => rfl
  | buffering state =>
      have hbuffer : ((buffer scope).turn state w).2.moment = w.moment :=
        moment_collected_turn state w
      rcases hturn : (buffer scope).turn state w with ⟨(_ | _) | _, w'⟩
      all_goals
        rw [hturn] at hbuffer
        simpa only [phaseTurn, hturn] using hbuffer

theorem moment_poll (course : Course (Seat StreamingOutputRequest) HalfDuplex Item) :
    (next.courseBeat ClientAct.act course .poll).world.moment = course.world.moment := by
  have hmoment := moment_phaseTurn course.state.scope course.state.phase course.world
  simp only [Operation.courseBeat, next, turn]
  rcases hturn : phaseTurn course.state.scope course.state.phase course.world
    with ⟨⟨item, phase⟩ | phase, w'⟩
  all_goals
    rw [hturn] at hmoment
    exact hmoment

theorem untriggered_of_beat {b : Beat (ClientAct StreamingOutputRequest)}
    (h : scope.failure? (next.courseBeat ClientAct.act course b).world.moment = none) :
    scope.failure? course.world.moment = none := by
  cases b with
  | poll => rwa [moment_poll] at h
  | event a => exact untriggered_of_act h

theorem noticed_beat (b : Beat (ClientAct StreamingOutputRequest))
    (h : scope.Noticed course.world.moment) :
    scope.Noticed (next.courseBeat ClientAct.act course b).world.moment := by
  cases b with
  | poll => rwa [moment_poll]
  | event a => exact noticed_act h

end Courses

theorem course_append (scope : Scope) (m : Moment)
    (beats more : List (Beat (ClientAct StreamingOutputRequest))) :
    course scope m (beats ++ more) =
      more.foldl (next.courseBeat ClientAct.act) (course scope m beats) :=
  Operation.follow_append beats more

theorem course_concat (scope : Scope) (m : Moment)
    (beats : List (Beat (ClientAct StreamingOutputRequest)))
    (b : Beat (ClientAct StreamingOutputRequest)) :
    course scope m (beats ++ [b]) = next.courseBeat ClientAct.act (course scope m beats) b :=
  Operation.follow_concat beats b

theorem at_start (scope : Scope) (m : Moment) :
    At scope (Quiet {}) (course scope m []) ∧ At scope (Held scope {}) (course scope m []) :=
  ⟨⟨_, rfl, @Quiet.listening {} [] [] _ _ rfl rfl⟩,
    ⟨_, rfl, @Held.listening scope {} [] [] _ _ rfl rfl⟩⟩

/-- **Where a conversation is after any schedule** that has not triggered its scope. -/
theorem held_course (scope : Scope) (m : Moment)
    (beats : List (Beat (ClientAct StreamingOutputRequest)))
    (huntriggered : scope.failure? (course scope m beats).world.moment = none) :
    At scope (Held scope (ClientSide.sent beats)) (course scope m beats) := by
  refine Operation.follow_induction_within
    (P := fun beats => At scope (Held scope (ClientSide.sent beats)))
    (Q := fun w => scope.failure? w.moment = none) (at_start scope m).2
    (fun _ _ => untriggered_of_beat) ?_ beats huntriggered
  intro beats b c hafter h
  rw [ClientSide.sent_concat]
  cases b with
  | event a =>
      obtain ⟨phase, hstate, hheld⟩ := h
      exact ⟨phase, hstate, hheld.act a⟩
  | poll =>
      rw [moment_poll] at hafter
      rw [ClientSide.hear_poll]
      refine h.poll fun items phase hheld => ?_
      have hpolled := held_turn hafter hheld
      generalize phaseTurn scope phase c.world = turned at hpolled
      cases hpolled with
      | waits hmoment h hstalled => exact .waits h
      | gives hmoment h => exact .gives h

/-- A poll keeps a conversation quiet whose client goes on, whose input fails, or whose scope is
noticed. -/
theorem quiet_leads (hcause : c.ending = .ongoing ∨ c.ending.failure? ≠ none ∨
      scope.Noticed w.moment)
    (h : Quiet c items phase w) : Leads (Quiet c) items (phaseTurn scope phase w) := by
  have hcause' : c.ending = .ongoing ∨ c.ending.failure? ≠ none ∨
      scope.failure? w.moment ≠ none :=
    hcause.imp_right fun h => h.imp_right Scope.Noticed.triggered
  have hhushed := hushed_turn hcause' h
  generalize phaseTurn scope phase w = turned at hhushed
  cases hhushed with
  | waits hmoment hongoing hunnoticed h => exact .waits h
  | gives hmoment h => exact .gives h
  | ends hmoment hunnoticed hover hno hblank =>
      rcases hcause with hongoing | hfailing | hnoticed
      · exact absurd hongoing hover
      · exact absurd hno hfailing
      · exact absurd hnoticed hunnoticed

theorem barren_leads (htriggered : scope.failure? w.moment ≠ none)
    (h : Barren c items phase w) : Leads (Barren c) items (phaseTurn scope phase w) := by
  cases h with
  | quiet h =>
      have hhushed := hushed_turn (Or.inr (Or.inr htriggered)) h
      generalize phaseTurn scope phase w = turned at hhushed
      cases hhushed with
      | waits hmoment hongoing hunnoticed h => exact .waits (.quiet h)
      | gives hmoment h => exact .gives (.quiet h)
      | ends hmoment hunnoticed hover hno hblank => exact .gives (.finished 0 hover hblank)
  | finished again hover hblank =>
      simp only [phaseTurn]
      refine .gives ?_
      rw [← List.replicate_succ']
      exact .finished (again + 1) hover hblank

/-- A conversation gives an item at the next poll once its input has failed or its scope has
been noticed, and in a triggered scope once its input is over. -/
theorem quiet_ready (hcause : c.ending.failure? ≠ none ∨ scope.Noticed w.moment ∨
      (scope.failure? w.moment ≠ none ∧ c.ending ≠ .ongoing))
    (h : Quiet c items phase w) :
    ∃ item phase' w', phaseTurn scope phase w = (.ready (item, phase'), w') := by
  have hcause' : c.ending = .ongoing ∨ c.ending.failure? ≠ none ∨
      scope.failure? w.moment ≠ none := by
    rcases hcause with hfailing | hnoticed | ⟨htriggered, _⟩
    · exact Or.inr (Or.inl hfailing)
    · exact Or.inr (Or.inr hnoticed.triggered)
    · exact Or.inr (Or.inr htriggered)
  have hhushed := hushed_turn hcause' h
  generalize phaseTurn scope phase w = turned at hhushed ⊢
  cases hhushed with
  | gives hmoment h => exact ⟨_, _, _, rfl⟩
  | ends hmoment hunnoticed hover hno hblank => exact ⟨_, _, _, rfl⟩
  | waits hmoment hongoing hunnoticed h =>
      rcases hcause with hfailing | hnoticed | ⟨_, hover⟩
      · rw [hongoing] at hfailing
        exact absurd rfl hfailing
      · exact absurd hnoticed hunnoticed
      · exact absurd hongoing hover

section Triggered

variable (scope : Scope) (m : Moment)
  (before after : List (Beat (ClientAct StreamingOutputRequest)))

/-- **A conversation whose client goes on, or whose input has failed, comes to nothing**, in
any scope. -/
theorem quiet_course (beats : List (Beat (ClientAct StreamingOutputRequest)))
    (hcause : (ClientSide.sent beats).ending = .ongoing ∨
      (ClientSide.sent beats).ending.failure? ≠ none) :
    At scope (Quiet (ClientSide.sent beats)) (course scope m beats) := by
  induction beats using List.reverseRecOn with
  | nil => exact (at_start scope m).1
  | append_singleton beats b ih =>
      rw [ClientSide.sent_concat] at hcause ⊢
      rw [course_concat]
      cases b with
      | poll =>
          rw [ClientSide.hear_poll] at hcause ⊢
          refine (ih hcause).poll fun items phase h => quiet_leads ?_ h
          exact hcause.imp_right Or.inl
      | event a =>
          have hearlier : (ClientSide.sent beats).ending = .ongoing ∨
              (ClientSide.sent beats).ending.failure? ≠ none := by
            rcases (ClientSide.hear_cases (ClientSide.sent beats) (.event a)).2
              with hongoing | hsame
            · exact Or.inl hongoing
            · rwa [hsame] at hcause
          obtain ⟨phase, hstate, hquiet⟩ := ih hearlier
          exact ⟨phase, hstate, hquiet.act a⟩

variable {scope m before}

/-- **A scope that is noticed before the input is over leaves one failure to give**, whatever
comes after it. -/
theorem quiet_after_trigger (hongoing : (ClientSide.sent before).ending = .ongoing)
    (hnoticed : scope.Noticed (course scope m before).world.moment) :
    At scope (Quiet (ClientSide.sent (before ++ after))) (course scope m (before ++ after)) ∧
      scope.Noticed (course scope m (before ++ after)).world.moment := by
  induction after using List.reverseRecOn with
  | nil =>
      rw [List.append_nil]
      exact ⟨quiet_course scope m before (Or.inl hongoing), hnoticed⟩
  | append_singleton after b ih =>
      obtain ⟨hat, hlatched⟩ := ih
      rw [← List.append_assoc, ClientSide.sent_concat, course_concat]
      refine ⟨?_, noticed_beat b hlatched⟩
      cases b with
      | poll =>
          rw [ClientSide.hear_poll]
          exact hat.poll fun items phase h => quiet_leads (Or.inr (Or.inr hlatched)) h
      | event a =>
          obtain ⟨phase, hstate, hquiet⟩ := hat
          exact ⟨phase, hstate, hquiet.act a⟩

/-- A scope that is triggered before the input is over, if only by the instant of its deadline,
leaves no response to give. -/
theorem barren_after_trigger (hongoing : (ClientSide.sent before).ending = .ongoing)
    (htriggered : scope.failure? (course scope m before).world.moment ≠ none) :
    At scope (Barren (ClientSide.sent (before ++ after))) (course scope m (before ++ after)) ∧
      scope.failure? (course scope m (before ++ after)).world.moment ≠ none := by
  induction after using List.reverseRecOn with
  | nil =>
      rw [List.append_nil]
      obtain ⟨phase, hstate, hquiet⟩ := quiet_course scope m before (Or.inl hongoing)
      exact ⟨⟨phase, hstate, .quiet hquiet⟩, htriggered⟩
  | append_singleton after b ih =>
      obtain ⟨hat, hlatched⟩ := ih
      rw [← List.append_assoc, ClientSide.sent_concat, course_concat]
      refine ⟨?_, fun hnone => hlatched (untriggered_of_beat hnone)⟩
      cases b with
      | poll =>
          rw [ClientSide.hear_poll]
          exact hat.poll fun items phase h => barren_leads hlatched h
      | event a =>
          obtain ⟨phase, hstate, hbarren⟩ := hat
          exact ⟨phase, hstate, hbarren.act a⟩

end Triggered

/-! ## A conversation does not stand still -/

/-- The end of a pause brings an item. -/
theorem answer_of_ready (scope : Scope) {m : Moment} {s s' : OutputStream} {i : Item}
    (rest : List StreamingOutputRequest) (hturn : s.turn m = .ready (i, s'))
    (hi : i ≠ .finished) : ∃ phase, answer scope m s rest = .ready (i, phase) := by
  rw [answer_eq, hturn]
  cases i with
  | finished => exact absurd rfl hi
  | response p => exact ⟨.answering s' rest, rfl⟩
  | failed st => exact ⟨.ended, rfl⟩

/-- **A conversation that is polled waits for the end of its input only.**  After it, time for
the longest pause, with a poll before it and one after it, brings another item. -/
theorem goes_on (scope : Scope) (m : Moment)
    (beats : List (Beat (ClientAct StreamingOutputRequest))) (gap : Gap)
    (huntriggered : scope.failure? (course scope m beats).world.moment = none)
    (hover : (ClientSide.sent beats).ending ≠ .ongoing)
    (hgap : ∀ r ∈ (ClientSide.sent beats).requests, ∀ p ∈ r.parameters,
      1000 * p.intervalMicros.toNat + 999999 ≤ gap.elapsed.nanos) :
    (course scope m beats).items.length <
      (course scope m (beats ++ [.poll, .event (.pass gap), .poll])).items.length := by
  obtain ⟨phase, hstate, hheld⟩ := held_course scope m beats huntriggered
  rw [course_append]
  generalize course scope m beats = c at huntriggered hstate hheld ⊢
  rcases c with ⟨items, state, w⟩
  dsimp only at huntriggered hstate hheld
  subst hstate
  have hpolled := held_turn huntriggered hheld
  rcases hturned : phaseTurn scope phase w with ⟨t, w'⟩
  rw [hturned] at hpolled
  refine Operation.length_lt_of_event ?_
  cases hpolled with
  | @gives item phase' _ hmoment h =>
      refine Or.inl ⟨item, ⟨scope, phase'⟩, w', ?_⟩
      simp only [next, turn, hturned]
  | @waits phase' _ hmoment h hstalled =>
      cases hstalled with
      | listening hongoing => exact absurd hongoing hover
      | @pausing r rest s hr hpaused =>
          have hlong : ∀ p ∈ r.parameters, w.moment.now.nanos + p.interval.nanos + 999999 ≤
              (w'.moment.after gap).now.nanos := by
            intro p hp
            have hp' := hgap r hr p hp
            rw [hmoment, p.interval_nanos]
            show _ ≤ w.moment.now.nanos + gap.elapsed.nanos
            omega
          obtain ⟨i, s', hturn, hi⟩ := turn_of_pausedIn hpaused hlong
          obtain ⟨phase'', hready⟩ := answer_of_ready scope rest hturn hi
          refine Or.inr ⟨⟨scope, .answering s rest⟩, w', ?_, i, ⟨scope, phase''⟩,
            { w' with moment := w'.moment.after gap }, ?_⟩
          · simp only [next, turn, hturned]
          · simp only [next, turn, ClientAct.act, phaseTurn, hready]

end RpcConformance.HalfDuplex
