import Mathlib.Algebra.BigOperators.Group.List.Basic
import Mathlib.Algebra.Ring.Nat
import RpcConformance.Proofs.ClientSide
import RpcConformance.Service.Reference

/-!
# A call that sums up its input

A call with a stream of requests has one answer: the number of payload bytes in all requests, or a
failure.  While it reads, it holds the sum of what it has read, and the inbox holds the rest, so the
two together are always all that was sent.  The number is never cut down to fewer bits: it is
answered as it stands, or refused by its exact value.

A failing input and a triggered scope leave one failure and no number, with two exceptions.  An
input that fails as cancelled ends like any other.  And where a deadline has been reached but not
the whole millisecond at which its timer fires, a read that is already under way can still find the
end of the input; then the answer is the sum of what was sent before the deadline, and nothing that
came later is in it.

## Main results

* `total_of_perm` — the order of the requests does not matter, nor do those without a payload.
* `Summing.beat`, `summing_course` — where a call is after any schedule.
* `Late.beat`, `late_course` — where it is if its scope was triggered before its input was over.
* `exact_sum_or_one_failure` — the answer, in every schedule.
-/

namespace RpcConformance.ReferenceServer

/-! ## Sums of payloads -/

/-- The payload bytes of each request. -/
def bodyLengths (requests : List StreamingInputRequest) : List Nat :=
  requests.map fun r => payloadLength r.payload

/-- The payload bytes of all requests. -/
def total (requests : List StreamingInputRequest) : Nat := (bodyLengths requests).sum

theorem foldl_addLength (start : Nat) (requests : List StreamingInputRequest) :
    requests.foldl addLength start = start + total requests := by
  induction requests generalizing start with
  | nil => rfl
  | cons r rest ih =>
      rw [List.foldl_cons, ih, addLength, total, total, bodyLengths, bodyLengths, List.map_cons,
        List.sum_cons, Nat.add_assoc]

theorem total_append (requests more : List StreamingInputRequest) :
    total (requests ++ more) = total requests + total more := by
  rw [total, bodyLengths, List.map_append, List.sum_append, total, total, bodyLengths, bodyLengths]

theorem sum_filter_ne_zero (lengths : List Nat) :
    (lengths.filter (· ≠ 0)).sum = lengths.sum := by
  induction lengths with
  | nil => rfl
  | cons n rest ih =>
      by_cases hzero : n = 0
      · subst hzero
        rw [List.filter_cons_of_neg (by decide), List.sum_cons, ih, Nat.zero_add]
      · rw [List.filter_cons_of_pos (by simpa using hzero), List.sum_cons, List.sum_cons, ih]

/-- **Only the payloads count**, in whatever order they come and whatever requests without one
stand between them. -/
theorem total_of_perm {requests requests' : List StreamingInputRequest}
    (h : ((bodyLengths requests).filter (· ≠ 0)).Perm
      ((bodyLengths requests').filter (· ≠ 0))) : total requests = total requests' := by
  rw [total, total, ← sum_filter_ne_zero, h.sum_eq, sum_filter_ne_zero]

theorem aggregate_of_le {n : Nat} (h : n ≤ 2147483647) : aggregate n = .ok (.aggregate n) :=
  if_pos (show n < int32Limit from Nat.lt_of_le_of_lt h (by decide))

theorem aggregate_of_lt {n : Nat} (h : 2147483647 < n) :
    aggregate n =
      .error (.invalidArgument ("aggregated size " ++ Decimal.text n ++ " overflows")) :=
  if_neg (Nat.not_lt.mpr (Nat.le_trans (by decide) (Nat.succ_le_of_lt h)))

/-! ## A call and its answer -/

variable {scope : Scope} {c : ClientSide StreamingInputRequest}
  {call : Turn (Collected Nat) (Except Status Nat) × Seat StreamingInputRequest}

/-- A call that a client has begun, as a schedule leads it. -/
def course (scope : Scope) (m : Moment) (beats : List (Beat (ClientAct StreamingInputRequest))) :
    Turn (Collected Nat) (Except Status Nat) × Seat StreamingInputRequest :=
  (sum scope).play ClientAct.act (.start 0) ⟨m, .empty⟩ beats

/-- What a call has been answered, if anything. -/
def given? (call : Turn (Collected Nat) (Except Status Nat) × Seat StreamingInputRequest) :
    Option (Except Status Reply) :=
  match call.1 with
  | .ready r => some (r.bind aggregate)
  | .waiting _ => none

/-- What is to be answered for an input that is over. -/
def verdict (c : ClientSide StreamingInputRequest) : Except Status Reply :=
  match c.ending.failure? with
  | some st => .error st
  | none => aggregate (total c.requests)

/-- A call has failed with the code of its scope, which has been triggered. -/
def FailedByScope (scope : Scope)
    (call : Turn (Collected Nat) (Except Status Nat) × Seat StreamingInputRequest) : Prop :=
  ∃ own st, scope.failure? call.2.moment = some own ∧ st.code = own.code ∧
    given? call = some (.error st)

/-! ## The invariant -/

/-- **Where a call is.**  It reads, with the sum of what it has read, and the rest is in the inbox;
or it has the total of its input, or a failure of the input, or one of the scope. -/
inductive Summing (scope : Scope) (c : ClientSide StreamingInputRequest) :
    Turn (Collected Nat) (Except Status Nat) × Seat StreamingInputRequest → Prop
  | reading {read pending : List StreamingInputRequest} {g : Scope.Guarded Unit}
      {w : Seat StreamingInputRequest} (hrequests : c.requests = read ++ pending)
      (hinbox : w.inbox = unread pending c.ending) :
      Summing scope c (.waiting ⟨total read, g⟩, w)
  | whole {w : Seat StreamingInputRequest} (hover : c.ending ≠ .ongoing)
      (hno : c.ending.failure? = none) : Summing scope c (.ready (.ok (total c.requests)), w)
  | broken {st : Status} {w : Seat StreamingInputRequest} (h : c.ending.failure? = some st) :
      Summing scope c (.ready (.error (scope.overrule w.moment st)), w)
  | triggered {own : Status} {w : Seat StreamingInputRequest}
      (h : scope.failure? w.moment = some own) : Summing scope c (.ready (.error own), w)

/-- What a poll makes of the requests that have come. -/
theorem gathered_sum (scope : Scope) (g : Scope.Guarded Unit) {w : Seat StreamingInputRequest}
    {read pending : List StreamingInputRequest} (hrequests : c.requests = read ++ pending)
    (hinbox : w.inbox = unread pending c.ending) :
    Gathered scope (total c.requests) c.ending w.moment
      ((sum scope).turn ⟨total read, g⟩ w) := by
  have hgathered : Gathered scope (pending.foldl addLength (total read)) c.ending w.moment
      ((sum scope).turn ⟨total read, g⟩ w) := gathered_turn ⟨total read, g⟩ hinbox
  rwa [foldl_addLength, ← total_append, ← hrequests] at hgathered

/-- **What a beat makes of a call.** -/
theorem Summing.beat (h : Summing scope c call) (b : Beat (ClientAct StreamingInputRequest)) :
    Summing scope (c.hear b) ((sum scope).beat ClientAct.act call b) := by
  cases h with
  | whole hover hno =>
      rw [ClientSide.hear_of_over hover]
      exact .whole hover hno
  | broken hfailure =>
      rw [ClientSide.hear_of_over (InputEnd.over_of_failure hfailure)]
      exact .broken hfailure
  | triggered hown => exact .triggered hown
  | @reading read pending g w hrequests hinbox =>
      cases b with
      | event a =>
          obtain ⟨pending', hrequests', hinbox'⟩ := unread_act hrequests hinbox a
          exact .reading hrequests' hinbox'
      | poll =>
          have hgathered := gathered_sum scope g hrequests hinbox
          rw [ClientSide.hear_poll]
          change Summing scope c ((sum scope).turn ⟨total read, g⟩ w)
          generalize (sum scope).turn ⟨total read, g⟩ w = turned at hgathered
          cases hgathered with
          | triggered hmoment hown => exact .triggered (by rw [hmoment]; exact hown)
          | broken hmoment hfailure =>
              rw [← hmoment]
              exact .broken hfailure
          | whole hmoment hover hno => exact .whole hover hno
          | waits hmoment hongoing hinbox' =>
              exact .reading (List.append_nil _).symm hinbox'

/-- **Where a call is after any schedule.** -/
theorem summing_course (scope : Scope) (m : Moment)
    (beats : List (Beat (ClientAct StreamingInputRequest))) :
    Summing scope (ClientSide.sent beats) (course scope m beats) := by
  induction beats using List.reverseRecOn with
  | nil => exact @Summing.reading scope {} [] [] _ _ rfl rfl
  | append_singleton beats b ih =>
      rw [ClientSide.sent_concat, course, Operation.play_concat]
      exact ih.beat b

theorem course_concat (scope : Scope) (m : Moment)
    (beats : List (Beat (ClientAct StreamingInputRequest)))
    (b : Beat (ClientAct StreamingInputRequest)) :
    course scope m (beats ++ [b]) = (sum scope).beat ClientAct.act (course scope m beats) b :=
  Operation.play_concat beats b

/-- Once the input is over, or the scope noticed, a poll settles the call. -/
theorem Summing.settled_of_poll (h : Summing scope c call)
    (hcause : c.ending ≠ .ongoing ∨ scope.Noticed call.2.moment) :
    ∃ r w, (sum scope).beat ClientAct.act call .poll = (.ready r, w) := by
  cases h with
  | whole => exact ⟨_, _, rfl⟩
  | broken => exact ⟨_, _, rfl⟩
  | triggered => exact ⟨_, _, rfl⟩
  | @reading read pending g w hrequests hinbox =>
      change ∃ r w', (sum scope).turn ⟨total read, g⟩ w = (.ready r, w')
      rcases hcause with hover | hnoticed
      · have hgathered := gathered_sum scope g hrequests hinbox
        generalize (sum scope).turn ⟨total read, g⟩ w = turned at hgathered ⊢
        cases hgathered with
        | triggered => exact ⟨_, _, rfl⟩
        | broken => exact ⟨_, _, rfl⟩
        | whole => exact ⟨_, _, rfl⟩
        | waits hmoment hongoing => exact absurd hongoing hover
      · obtain ⟨own, -, hturn⟩ : ∃ own, scope.failure? w.moment = some own ∧
            (sum scope).turn ⟨total read, g⟩ w = (.ready (.error own), w) :=
          collected_turn_of_noticed hnoticed
        exact ⟨_, _, hturn⟩

/-- In an untriggered scope a call has nothing yet, or the verdict on its whole input. -/
theorem Summing.verdict (h : Summing scope c call)
    (huntriggered : scope.failure? call.2.moment = none) :
    given? call = none ∨ c.ending ≠ .ongoing ∧ given? call = some (verdict c) := by
  cases h with
  | reading => exact Or.inl rfl
  | triggered hown =>
      rw [huntriggered] at hown
      cases hown
  | whole hover hno =>
      refine Or.inr ⟨hover, ?_⟩
      rw [ReferenceServer.verdict, hno]
      rfl
  | broken hfailure =>
      refine Or.inr ⟨InputEnd.over_of_failure hfailure, ?_⟩
      rw [ReferenceServer.verdict, hfailure, Scope.overrule_of_untriggered _ huntriggered]
      rfl

/-- A failing input leaves nothing but a failure: its own, or one with the code of the scope. -/
theorem Summing.failure (h : Summing scope c call) {st : Status}
    (hfails : c.ending.failure? = some st) :
    given? call = none ∨ FailedByScope scope call ∨
      scope.failure? call.2.moment = none ∧ given? call = some (.error st) := by
  cases h with
  | reading => exact Or.inl rfl
  | triggered hown => exact Or.inr (Or.inl ⟨_, _, hown, rfl, rfl⟩)
  | whole hover hno =>
      rw [hfails] at hno
      cases hno
  | @broken st' w hfailure =>
      rw [hfails] at hfailure
      cases hfailure
      cases hscope : scope.failure? w.moment with
      | none =>
          refine Or.inr (Or.inr ⟨rfl, ?_⟩)
          rw [Scope.overrule_of_untriggered _ hscope]
          rfl
      | some own =>
          exact Or.inr (Or.inl ⟨own, _, hscope, Scope.overrule_code st hscope, rfl⟩)

/-! ## A scope that is triggered before the input is over -/

/-- A read in a triggered scope finds no request: a guard that has not noticed the scope gives
way to one that looks at it once more. -/
theorem turn_of_triggered {own : Status} {w : Seat StreamingInputRequest} {n : Nat}
    {g : Scope.Guarded Unit} {r : StreamingInputRequest} {pending : List StreamingInputRequest}
    {e : InputEnd} (htriggered : scope.failure? w.moment = some own)
    (hinbox : w.inbox = unread (r :: pending) e) :
    ∃ st w', (sum scope).turn ⟨n, g⟩ w = (.ready (.error st), w') ∧
      scope.failure? w'.moment = some st := by
  have hfuel : w.inbox.arrivals.length + 1 = (unread pending e).arrivals.length + 1 + 1 := by
    rw [hinbox]
    rfl
  change ∃ st w',
    Collected.turnWithin scope addLength (w.inbox.arrivals.length + 1) ⟨n, g⟩ w = _ ∧ _
  rw [hfuel]
  cases hseen : scope.seen? g w.moment with
  | some st =>
      have hturn := Scope.guard_turn_of_seen scope Inbox.next (w := w) hseen
      refine ⟨st, w, ?_, Scope.failure?_of_seen hseen⟩
      rw [Collected.turnWithin, hturn]
  | none =>
      have hturn := Scope.guard_turn_of_unseen scope Inbox.next (w := w) hseen
      rw [next_turn_cons hinbox] at hturn
      have hagain : scope.seen? (.fresh ()) w.moment = some own := htriggered
      have hturn' := Scope.guard_turn_of_seen scope Inbox.next
        (w := { w with inbox := unread pending e }) hagain
      refine ⟨own, { w with inbox := unread pending e }, ?_, htriggered⟩
      rw [Collected.turnWithin, hturn]
      dsimp only [Scope.passOn]
      rw [Collected.turnWithin, Collected.start, hturn']

/-- **Where a call is whose scope was triggered before its input was over**, when only the base of
its requests had been sent.  It has read no more than those; or it has their total, with nothing
sent behind them and nothing noticed; or it has failed. -/
inductive Late (scope : Scope) (base : List StreamingInputRequest)
    (c : ClientSide StreamingInputRequest) :
    Turn (Collected Nat) (Except Status Nat) × Seat StreamingInputRequest → Prop
  | reading {read pending : List StreamingInputRequest} {g : Scope.Guarded Unit}
      {w : Seat StreamingInputRequest} (hrequests : c.requests = read ++ pending)
      (hread : read.length ≤ base.length) (hinbox : w.inbox = unread pending c.ending) :
      Late scope base c (.waiting ⟨total read, g⟩, w)
  | whole {w : Seat StreamingInputRequest} (hover : c.ending ≠ .ongoing)
      (hno : c.ending.failure? = none) (hsame : c.requests.length ≤ base.length)
      (hunnoticed : ¬scope.Noticed w.moment) :
      Late scope base c (.ready (.ok (total c.requests)), w)
  | failed {own st : Status} {w : Seat StreamingInputRequest}
      (h : scope.failure? w.moment = some own) (hcode : st.code = own.code) :
      Late scope base c (.ready (.error st), w)

/-- A call is late from the moment at which its scope is triggered. -/
theorem Summing.late (h : Summing scope c call) (hongoing : c.ending = .ongoing) :
    Late scope c.requests c call := by
  cases h with
  | reading hrequests hinbox =>
      refine .reading hrequests ?_ hinbox
      rw [hrequests, List.length_append]
      exact Nat.le_add_right _ _
  | whole hover => exact absurd hongoing hover
  | broken hfailure => exact absurd hongoing (InputEnd.over_of_failure hfailure)
  | triggered hown => exact .failed hown rfl

/-- **What a beat makes of such a call.** -/
theorem Late.beat {base : List StreamingInputRequest} (h : Late scope base c call)
    (htriggered : scope.failure? call.2.moment ≠ none)
    (b : Beat (ClientAct StreamingInputRequest)) :
    Late scope base (c.hear b) ((sum scope).beat ClientAct.act call b) := by
  cases h with
  | whole hover hno hsame hunnoticed =>
      rw [ClientSide.hear_of_over hover]
      exact .whole hover hno hsame hunnoticed
  | failed hown hcode => exact .failed hown hcode
  | @reading read pending g w hrequests hread hinbox =>
      cases b with
      | event a =>
          obtain ⟨pending', hrequests', hinbox'⟩ := unread_act hrequests hinbox a
          exact .reading hrequests' hread hinbox'
      | poll =>
          obtain ⟨own, hown⟩ := Option.ne_none_iff_exists'.mp htriggered
          rw [ClientSide.hear_poll]
          change Late scope base c ((sum scope).turn ⟨total read, g⟩ w)
          cases pending with
          | cons r pending =>
              obtain ⟨st, w', hturn, hst⟩ := turn_of_triggered hown hinbox
              rw [hturn]
              exact .failed hst rfl
          | nil =>
              rw [List.append_nil] at hrequests
              by_cases hnoticed : scope.Noticed w.moment
              · obtain ⟨st, hst, hturn⟩ : ∃ st, scope.failure? w.moment = some st ∧
                    (sum scope).turn ⟨total read, g⟩ w = (.ready (.error st), w) :=
                  collected_turn_of_noticed hnoticed
                rw [hturn]
                exact .failed hst rfl
              · have hgathered := gathered_sum scope g
                  (by rw [hrequests, List.append_nil]) hinbox
                generalize (sum scope).turn ⟨total read, g⟩ w = turned at hgathered
                cases hgathered with
                | triggered hmoment hst => exact .failed (by rw [hmoment]; exact hst) rfl
                | broken hmoment hfailure =>
                    exact .failed (by rw [hmoment]; exact hown) (Scope.overrule_code _ hown)
                | whole hmoment hover hno =>
                    refine .whole hover hno (by rw [hrequests]; exact hread) ?_
                    rw [hmoment]
                    exact hnoticed
                | waits hmoment hongoing hinbox' =>
                    exact .reading (List.append_nil _).symm (by rw [hrequests]; exact hread)
                      hinbox'

/-- A beat does not take back what has triggered a scope. -/
theorem precedes_beat
    (call : Turn (Collected Nat) (Except Status Nat) × Seat StreamingInputRequest)
    (b : Beat (ClientAct StreamingInputRequest)) :
    call.2.moment.Precedes ((sum scope).beat ClientAct.act call b).2.moment := by
  rcases call with ⟨r | state, w⟩
  · cases b <;> exact .refl _
  · cases b with
    | event a => exact precedes_act a w
    | poll =>
        have hmoment : ((sum scope).turn state w).2.moment = w.moment :=
          moment_collected_turn state w
        change w.moment.Precedes ((sum scope).turn state w).2.moment
        rw [hmoment]
        exact .refl _

theorem precedes_course (scope : Scope) (m : Moment)
    (before after : List (Beat (ClientAct StreamingInputRequest))) :
    (course scope m before).2.moment.Precedes (course scope m (before ++ after)).2.moment := by
  induction after using List.reverseRecOn with
  | nil =>
      rw [List.append_nil]
      exact .refl _
  | append_singleton after b ih =>
      rw [← List.append_assoc, course_concat]
      exact ih.trans (precedes_beat _ b)

/-- **Where a call is after any schedule that has triggered its scope** before its input was
over. -/
theorem late_course (scope : Scope) (m : Moment)
    {before : List (Beat (ClientAct StreamingInputRequest))}
    (after : List (Beat (ClientAct StreamingInputRequest)))
    (hongoing : (ClientSide.sent before).ending = .ongoing)
    (htriggered : scope.failure? (course scope m before).2.moment ≠ none) :
    Late scope (ClientSide.sent before).requests (ClientSide.sent (before ++ after))
      (course scope m (before ++ after)) := by
  induction after using List.reverseRecOn with
  | nil =>
      rw [List.append_nil]
      exact (summing_course scope m before).late hongoing
  | append_singleton after b ih =>
      rw [← List.append_assoc, ClientSide.sent_concat, course_concat]
      refine ih.beat (fun hnone => htriggered ?_) b
      exact Scope.untriggered_of_precedes (precedes_course scope m before after) hnone

/-! ## The answer -/

/-- A call that has been given something is given nothing more. -/
theorem given?_append {scope : Scope} {m : Moment}
    {beats : List (Beat (ClientAct StreamingInputRequest))} {answer : Except Status Reply}
    (more : List (Beat (ClientAct StreamingInputRequest)))
    (h : given? (course scope m beats) = some answer) :
    course scope m (beats ++ more) = course scope m beats := by
  rcases hcourse : course scope m beats with ⟨r | state, w⟩
  · have happend : course scope m (beats ++ more) =
        more.foldl ((sum scope).beat ClientAct.act) (course scope m beats) := List.foldl_append
    rw [happend, hcourse, Operation.foldl_beat_ready]
  · rw [hcourse] at h
    cases h

/-- A call whose input is over, or whose scope is noticed, has been given something after one
poll, whatever follows. -/
theorem given?_of_poll {m : Moment} {beats : List (Beat (ClientAct StreamingInputRequest))}
    (more : List (Beat (ClientAct StreamingInputRequest)))
    (hcause : (ClientSide.sent beats).ending ≠ .ongoing ∨
      scope.Noticed (course scope m beats).2.moment) :
    given? (course scope m (beats ++ .poll :: more)) ≠ none := by
  obtain ⟨r, w, hbeat⟩ := (summing_course scope m beats).settled_of_poll hcause
  rw [← course_concat] at hbeat
  have hgiven : given? (course scope m (beats ++ [.poll])) = some (r.bind aggregate) := by
    rw [hbeat]
    rfl
  rw [List.append_cons, given?_append more hgiven, hgiven]
  exact nofun

/-- What a call is given whose scope was triggered before its input was over. -/
theorem given?_late (scope : Scope) (m : Moment)
    (before after : List (Beat (ClientAct StreamingInputRequest)))
    (hongoing : (ClientSide.sent before).ending = .ongoing)
    (htriggered : scope.failure? (course scope m before).2.moment ≠ none) :
    given? (course scope m (before ++ after)) = none ∨
    FailedByScope scope (course scope m (before ++ after)) ∨
    (¬scope.Noticed (course scope m (before ++ after)).2.moment ∧
      (ClientSide.sent (before ++ after)).ending ≠ .ongoing ∧
      (ClientSide.sent (before ++ after)).ending.failure? = none ∧
      (ClientSide.sent (before ++ after)).requests = (ClientSide.sent before).requests ∧
      given? (course scope m (before ++ after)) =
        some (aggregate (total (ClientSide.sent before).requests))) := by
  have hlate := late_course scope m after hongoing htriggered
  have hbefore := ClientSide.requests_isPrefix before after
  generalize course scope m (before ++ after) = call at hlate ⊢
  cases hlate with
  | reading => exact Or.inl rfl
  | failed hown hcode => exact Or.inr (Or.inl ⟨_, _, hown, hcode, rfl⟩)
  | whole hover hno hsame hunnoticed =>
      have hrequests := hbefore.eq_of_length_le hsame
      refine Or.inr (Or.inr ⟨hunnoticed, hover, hno, hrequests.symm, ?_⟩)
      rw [hrequests]
      rfl

/-- **The exact sum, or one failure.**  In an untriggered scope a call is given nothing before its
input is over, and then, at the next poll, the verdict on all of it, once.  The verdict on an input
that ends is the exact sum of its payload bytes up to 31 bits, and names that sum in its refusal
beyond them; it does not depend on the order of the requests or on those without a payload.  An
input that fails leaves one failure, its own or one with the code of the scope.  A scope whose
signal or timer is there before the input is over leaves one failure with its code.  One of which
only the instant has come by then leaves such a failure too, or else the sum of exactly what had
been sent by that time. -/
theorem exact_sum_or_one_failure (scope : Scope) (m : Moment) :
    (∀ beats, scope.failure? (course scope m beats).2.moment = none →
      given? (course scope m beats) = none ∨
      (ClientSide.sent beats).ending ≠ .ongoing ∧
        given? (course scope m beats) = some (verdict (ClientSide.sent beats))) ∧
    (∀ beats more, (ClientSide.sent beats).ending ≠ .ongoing →
      given? (course scope m (beats ++ .poll :: more)) ≠ none) ∧
    (∀ beats more answer, given? (course scope m beats) = some answer →
      given? (course scope m (beats ++ more)) = some answer) ∧
    (∀ c : ClientSide StreamingInputRequest, c.ending.failure? = none →
      (total c.requests ≤ 2147483647 → verdict c = .ok (.aggregate (total c.requests))) ∧
      (2147483647 < total c.requests → verdict c = .error (.invalidArgument
        ("aggregated size " ++ Decimal.text (total c.requests) ++ " overflows"))) ∧
      ∀ c' : ClientSide StreamingInputRequest, c'.ending.failure? = none →
        ((bodyLengths c.requests).filter (· ≠ 0)).Perm
          ((bodyLengths c'.requests).filter (· ≠ 0)) → verdict c = verdict c') ∧
    (∀ beats st, (ClientSide.sent beats).ending.failure? = some st →
      given? (course scope m beats) = none ∨ FailedByScope scope (course scope m beats) ∨
      scope.failure? (course scope m beats).2.moment = none ∧
        given? (course scope m beats) = some (.error st)) ∧
    (∀ before after, (ClientSide.sent before).ending = .ongoing →
      scope.Noticed (course scope m before).2.moment →
        (given? (course scope m (before ++ after)) = none ∨
          FailedByScope scope (course scope m (before ++ after))) ∧
        given? (course scope m (before ++ .poll :: after)) ≠ none) ∧
    (∀ before after, (ClientSide.sent before).ending = .ongoing →
      scope.failure? (course scope m before).2.moment ≠ none →
        given? (course scope m (before ++ after)) = none ∨
        FailedByScope scope (course scope m (before ++ after)) ∨
        (¬scope.Noticed (course scope m (before ++ after)).2.moment ∧
          (ClientSide.sent (before ++ after)).ending ≠ .ongoing ∧
          (ClientSide.sent (before ++ after)).ending.failure? = none ∧
          (ClientSide.sent (before ++ after)).requests = (ClientSide.sent before).requests ∧
          given? (course scope m (before ++ after)) =
            some (aggregate (total (ClientSide.sent before).requests)))) := by
  refine ⟨?_, ?_, ?_, ?_, ?_, ?_, given?_late scope m⟩
  · intro beats huntriggered
    exact (summing_course scope m beats).verdict huntriggered
  · intro beats more hover
    exact given?_of_poll more (Or.inl hover)
  · intro beats more answer hgiven
    rw [given?_append more hgiven, hgiven]
  · intro c hno
    have hverdict : ∀ c' : ClientSide StreamingInputRequest, c'.ending.failure? = none →
        verdict c' = aggregate (total c'.requests) := by
      intro c' hno'
      rw [verdict, hno']
    refine ⟨?_, ?_, ?_⟩
    · intro hfits
      rw [hverdict c hno, aggregate_of_le hfits]
    · intro hlarge
      rw [hverdict c hno, aggregate_of_lt hlarge]
    · intro c' hno' hperm
      rw [hverdict c hno, hverdict c' hno', total_of_perm hperm]
  · intro beats st hfails
    exact (summing_course scope m beats).failure hfails
  · intro before after hongoing hnoticed
    refine ⟨?_, given?_of_poll after (Or.inr hnoticed)⟩
    rcases given?_late scope m before after hongoing hnoticed.triggered with
      hnothing | hfailed | ⟨hunnoticed, -⟩
    · exact Or.inl hnothing
    · exact Or.inr hfailed
    · exact absurd (hnoticed.mono (precedes_course scope m before after)) hunnoticed

/-! ## Two inputs that are summed up -/

/-- A client that sends three bytes and is then cancelled. -/
def cancelledSender : List (Beat (ClientAct StreamingInputRequest)) :=
  [.event (.send ⟨some ⟨Payload.compressable, [0, 0, 0]⟩⟩), .event (.fail (.cancelled "gone"))]

/-- A client that sends three bytes, is listened to, and waits past a deadline of a millisecond and
a half, but not to the next whole millisecond. -/
def lateSender : List (Beat (ClientAct StreamingInputRequest)) :=
  [.event (.send ⟨some ⟨Payload.compressable, [0, 0, 0]⟩⟩), .poll,
    .event (.pass ⟨⟨1700000⟩, []⟩)]

/-- An input that fails as cancelled is summed up, and so is one that ends between a deadline and
its timer. -/
theorem two_inputs_give_their_sum :
    ((ClientSide.sent cancelledSender).ending = .failed (.cancelled "gone") ∧
      given? (course ⟨none, 0⟩ .start (cancelledSender ++ [.poll])) =
        some (.ok (.aggregate 3))) ∧
    ((ClientSide.sent lateSender).ending = .ongoing ∧
      Scope.failure? ⟨some ⟨1500000⟩, 0⟩
        (course ⟨some ⟨1500000⟩, 0⟩ .start lateSender).2.moment = some Scope.expiredStatus ∧
      given? (course ⟨some ⟨1500000⟩, 0⟩ .start (lateSender ++ [.event .close, .poll])) =
        some (.ok (.aggregate 3))) :=
  ⟨⟨rfl, rfl⟩, rfl, rfl, rfl⟩

end RpcConformance.ReferenceServer
