import RpcConformance.Proofs.FullDuplex
import RpcConformance.Proofs.HalfDuplex

/-!
# Both conversations answer the same

The two conversations follow one dialogue.  The full-duplex one is in step with its client; the
half-duplex one says nothing before its input is over and then says the same.  What it makes of
an input that fails, or of a scope that is triggered before the input is over, is one failure.

Two inputs that look like that are none.  An input that fails as cancelled is the end of the
requests, so it is answered.  And in the millisecond between a deadline and its timer the end of
an input can still be read, so a conversation that was asked for nothing ends well.

## Main results

* `conversations_follow_the_dialogue` — what both conversations say, in every schedule.
-/

namespace RpcConformance

/-- The items of a course, without their moments. -/
def Course.said {W σ ι : Type} (c : Course W σ ι) : List ι := c.items.map Prod.fst

/-- The beginning of a script, or, where the script has its end, all of it and then only the
end. -/
def Follows (script : List Item) (settled : Prop) (items : List Item) : Prop :=
  items <+: script ∨ settled ∧ ∃ again, items = script ++ List.replicate again .finished

/-- Nothing yet, or one failure and then only the end. -/
def OneFailure (items : List Item) : Prop :=
  items = [] ∨ ∃ st again, items = .failed st :: List.replicate again .finished

namespace FullDuplex

/-- What a conversation that answers at once has said, and what it has read, by the end of a
schedule, and that it waits for its client only. -/
structure Answers (scope : Scope) (m : Moment)
    (beats : List (Beat (ClientAct StreamingOutputRequest))) : Prop where
  /-- It has said the beginning of the dialogue, or all of it. -/
  follows : Follows (ClientSide.sent beats).dialogue (ClientSide.sent beats).Settled
    (course scope m beats).said
  /-- Of the requests that have been read, all but the last have had all of their responses. -/
  inStep : ∃ earlier last, (ClientSide.sent beats).requests =
      earlier ++ last ++ (course scope m beats).world.inbox.messages ∧ last.length ≤ 1 ∧
    earlier.flatMap StreamingOutputRequest.responses <+: (course scope m beats).said
  /-- Time for the longest pause brings an item, unless everything has been answered. -/
  goesOn : ∀ gap : Gap,
    (∀ r ∈ (ClientSide.sent beats).requests, ∀ p ∈ r.parameters,
      1000 * p.intervalMicros.toNat + 999999 ≤ gap.elapsed.nanos) →
    ((ClientSide.sent beats).ending = .ongoing ∧
      (course scope m beats).said = (ClientSide.sent beats).dialogue) ∨
    (course scope m beats).items.length <
      (course scope m (beats ++ [.poll, .event (.pass gap), .poll])).items.length

theorem answers (scope : Scope) (m : Moment)
    (beats : List (Beat (ClientAct StreamingOutputRequest)))
    (huntriggered : scope.failure? (course scope m beats).world.moment = none) :
    Answers scope m beats := by
  obtain ⟨phase, hstate, hengaged⟩ := engaged_course scope m beats huntriggered
  exact ⟨hengaged.follows, hengaged.inStep, fun gap => goes_on scope m beats gap huntriggered⟩

end FullDuplex

namespace HalfDuplex

variable {scope : Scope} {c : ClientSide StreamingOutputRequest} {items : List Item}
  {phase : HalfDuplexPhase} {w : Seat StreamingOutputRequest}

/-- What a conversation that answers at the end of its input has said by the end of a schedule,
and that it waits for that end and its pauses only. -/
structure Replays (scope : Scope) (m : Moment)
    (beats : List (Beat (ClientAct StreamingOutputRequest))) : Prop where
  /-- Before the end it has said nothing. -/
  silent : (ClientSide.sent beats).ending = .ongoing → (course scope m beats).said = []
  /-- Then it has said the beginning of the dialogue, or all of it. -/
  follows : (ClientSide.sent beats).ending ≠ .ongoing →
    (ClientSide.sent beats).ending.failure? = none →
    (∀ r ∈ (ClientSide.sent beats).requests, Answerable r.responseType r.parameters) →
      Follows (ClientSide.sent beats).dialogue True (course scope m beats).said
  /-- Time for the longest pause brings an item. -/
  goesOn : (ClientSide.sent beats).ending ≠ .ongoing → ∀ gap : Gap,
    (∀ r ∈ (ClientSide.sent beats).requests, ∀ p ∈ r.parameters,
      1000 * p.intervalMicros.toNat + 999999 ≤ gap.elapsed.nanos) →
    (course scope m beats).items.length <
      (course scope m (beats ++ [.poll, .event (.pass gap), .poll])).items.length

theorem Quiet.oneFailure (h : Quiet c items phase w) : OneFailure items := by
  cases h with
  | listening hrequests hinbox => exact Or.inl rfl
  | failed st again => exact Or.inr ⟨st, again, rfl⟩

theorem Barren.oneFailure_or (h : Barren c items phase w) :
    OneFailure items ∨
      (∃ again, items = List.replicate (again + 1) .finished) ∧ ∀ r ∈ c.requests, Blank r := by
  cases h with
  | quiet h => exact Or.inl h.oneFailure
  | finished again hover hblank => exact Or.inr ⟨⟨again, rfl⟩, hblank⟩

/-- A conversation whose item is ready at the next poll has said something after it. -/
theorem said_of_ready (scope : Scope) (m : Moment)
    (beats : List (Beat (ClientAct StreamingOutputRequest)))
    {P : List Item → HalfDuplexPhase → Seat StreamingOutputRequest → Prop}
    (h : At scope P (course scope m beats))
    (hready : ∀ items phase, P items phase (course scope m beats).world →
      ∃ item phase' w', phaseTurn scope phase (course scope m beats).world =
        (.ready (item, phase'), w')) :
    (course scope m (beats ++ [.poll])).said ≠ [] := by
  have hlonger := h.length_lt hready
  rw [← course_concat] at hlonger
  intro hnothing
  rw [Course.said, List.map_eq_nil_iff] at hnothing
  rw [hnothing] at hlonger
  exact Nat.not_lt_zero _ hlonger

theorem replays (scope : Scope) (m : Moment)
    (beats : List (Beat (ClientAct StreamingOutputRequest)))
    (huntriggered : scope.failure? (course scope m beats).world.moment = none) :
    Replays scope m beats := by
  obtain ⟨phase, hstate, hheld⟩ := held_course scope m beats huntriggered
  have hfollows := hheld.follows
  refine ⟨?_, ?_, fun hover gap => goes_on scope m beats gap huntriggered hover⟩
  · intro hongoing
    rw [ClientSide.replay_of_ongoing hongoing] at hfollows
    rcases hfollows with hprefix | ⟨hover, _⟩
    · exact List.prefix_nil.mp hprefix
    · exact absurd hongoing hover
  · intro hover hno _
    rw [ClientSide.replay_eq_dialogue hover hno] at hfollows
    exact hfollows.imp_right fun h => ⟨trivial, h.2⟩

/-- An input that fails leaves one failure to give, and in an untriggered scope its own. -/
theorem failed_input_is_told (scope : Scope) (m : Moment)
    (beats : List (Beat (ClientAct StreamingOutputRequest))) {st : Status}
    (hfails : (ClientSide.sent beats).ending.failure? = some st) :
    OneFailure (course scope m beats).said ∧
      (course scope m (beats ++ [.poll])).said ≠ [] ∧
      (scope.failure? (course scope m beats).world.moment = none →
        Follows [.failed st] True (course scope m beats).said) := by
  have hfailing : (ClientSide.sent beats).ending.failure? ≠ none := by simp [hfails]
  have hat := quiet_course scope m beats (Or.inr hfailing)
  refine ⟨?_, ?_, ?_⟩
  · obtain ⟨phase, hstate, hquiet⟩ := hat
    exact hquiet.oneFailure
  · exact said_of_ready scope m beats hat fun items phase h => quiet_ready (Or.inl hfailing) h
  · intro huntriggered
    obtain ⟨phase, hstate, hheld⟩ := held_course scope m beats huntriggered
    have hfollows := hheld.follows
    rw [ClientSide.replay_of_failure hfails] at hfollows
    exact hfollows.imp_right fun h => ⟨trivial, h.2⟩

section Triggered

variable (scope : Scope) (m : Moment)
  (before after : List (Beat (ClientAct StreamingOutputRequest)))

/-- A scope that is noticed before the input is over leaves one failure to give. -/
theorem noticed_scope_is_told (hongoing : (ClientSide.sent before).ending = .ongoing)
    (hnoticed : scope.Noticed (course scope m before).world.moment) :
    OneFailure (course scope m (before ++ after)).said ∧
      (course scope m (before ++ after ++ [.poll])).said ≠ [] := by
  obtain ⟨hat, hlatched⟩ := quiet_after_trigger after hongoing hnoticed
  constructor
  · obtain ⟨phase, hstate, hquiet⟩ := id hat
    exact hquiet.oneFailure
  · exact said_of_ready scope m _ hat fun items phase h =>
      quiet_ready (Or.inr (Or.inl hlatched)) h

/-- A scope that is triggered before the input is over, if only by the instant of its deadline,
leaves no response to give, and one failure unless nothing is asked for. -/
theorem triggered_scope_answers_nothing (hongoing : (ClientSide.sent before).ending = .ongoing)
    (htriggered : scope.failure? (course scope m before).world.moment ≠ none) :
    (OneFailure (course scope m (before ++ after)).said ∨
        (∃ again, (course scope m (before ++ after)).said =
          List.replicate (again + 1) .finished) ∧
        ∀ r ∈ (ClientSide.sent (before ++ after)).requests, Blank r) ∧
      ((ClientSide.sent (before ++ after)).ending ≠ .ongoing →
        (course scope m (before ++ after ++ [.poll])).said ≠ []) := by
  obtain ⟨hat, hlatched⟩ := barren_after_trigger after hongoing htriggered
  constructor
  · obtain ⟨phase, hstate, hbarren⟩ := id hat
    exact hbarren.oneFailure_or
  · intro hover
    refine said_of_ready scope m _ hat fun items phase h => ?_
    cases h with
    | quiet h => exact quiet_ready (Or.inr (Or.inr ⟨hlatched, hover⟩)) h
    | finished again hover hblank => exact ⟨_, _, _, rfl⟩

end Triggered

end HalfDuplex

/-- **What both conversations say.**  A request with a fault has no response and fails with it;
any other has a response for each of its parameters, in order, and fails exactly if it asks for
a status whose code is not zero, with the code of that number and its message.  In an
untriggered scope the full-duplex conversation follows the dialogue, in step with its client.
The half-duplex one says nothing before its input is over, and then follows the same dialogue,
where every request can be answered.  An input that fails leaves it one failure, and so does a
scope whose signal or timer is there before the input is over.  Where only the instant of the
deadline has been reached by then, it gives no response either, and one failure unless nothing
is asked of it. -/
theorem conversations_follow_the_dialogue (scope : Scope) (m : Moment) :
    (∀ r : StreamingOutputRequest,
      (∀ st, RequestFault r.responseType r.parameters st →
        r.responses = [] ∧ r.failure? = some st) ∧
      (Answerable r.responseType r.parameters →
        (r.responses = r.parameters.map fun p => .response p.payload) ∧
        ∀ st, r.failure? = some st ↔ ∃ e, r.responseStatus = some e ∧ e.code ≠ 0 ∧
          st = ⟨Code.ofNumber e.code, e.message, [], .empty⟩)) ∧
    (∀ beats, scope.failure? (FullDuplex.course scope m beats).world.moment = none →
      FullDuplex.Answers scope m beats) ∧
    (∀ beats, scope.failure? (HalfDuplex.course scope m beats).world.moment = none →
      HalfDuplex.Replays scope m beats) ∧
    (∀ beats st, (ClientSide.sent beats).ending.failure? = some st →
      OneFailure (HalfDuplex.course scope m beats).said ∧
      (HalfDuplex.course scope m (beats ++ [.poll])).said ≠ [] ∧
      (scope.failure? (HalfDuplex.course scope m beats).world.moment = none →
        Follows [.failed st] True (HalfDuplex.course scope m beats).said)) ∧
    (∀ before after, (ClientSide.sent before).ending = .ongoing →
      scope.Noticed (HalfDuplex.course scope m before).world.moment →
        OneFailure (HalfDuplex.course scope m (before ++ after)).said ∧
        (HalfDuplex.course scope m (before ++ after ++ [.poll])).said ≠ []) ∧
    (∀ before after, (ClientSide.sent before).ending = .ongoing →
      scope.failure? (HalfDuplex.course scope m before).world.moment ≠ none →
        (OneFailure (HalfDuplex.course scope m (before ++ after)).said ∨
          (∃ again, (HalfDuplex.course scope m (before ++ after)).said =
            List.replicate (again + 1) .finished) ∧
          ∀ r ∈ (ClientSide.sent (before ++ after)).requests, HalfDuplex.Blank r) ∧
        ((ClientSide.sent (before ++ after)).ending ≠ .ongoing →
          (HalfDuplex.course scope m (before ++ after ++ [.poll])).said ≠ [])) :=
  ⟨fun _ => StreamingOutputRequest.refused_or_answered,
    FullDuplex.answers scope m, HalfDuplex.replays scope m,
    fun beats _ => HalfDuplex.failed_input_is_told scope m beats,
    HalfDuplex.noticed_scope_is_told scope m,
    HalfDuplex.triggered_scope_answers_nothing scope m⟩

/-! ## Two inputs that look like failures -/

/-- A client that asks for one byte and is then cancelled. -/
def cancelledClient : List (Beat (ClientAct StreamingOutputRequest)) :=
  [.event (.send ⟨Payload.compressable, [⟨1, 0⟩], none, none⟩),
    .event (.fail (.cancelled "gone"))]

/-- A client that is listened to and waits past a deadline of a millisecond and a half, but not
to the next whole millisecond. -/
def lateClient : List (Beat (ClientAct StreamingOutputRequest)) :=
  [.poll, .event (.pass ⟨⟨1700000⟩, []⟩)]

/-- An input that fails as cancelled is answered, and one that ends between a deadline and its
timer ends a conversation well: neither leaves a failure to give. -/
theorem two_inputs_leave_no_failure :
    ((ClientSide.sent cancelledClient).ending = .failed (.cancelled "gone") ∧
      (HalfDuplex.course ⟨none, 0⟩ .start (cancelledClient ++ [.poll])).said =
        [.response ⟨Payload.compressable, [0]⟩]) ∧
    ((ClientSide.sent lateClient).ending = .ongoing ∧
      Scope.failure? ⟨some ⟨1500000⟩, 0⟩
        (HalfDuplex.course ⟨some ⟨1500000⟩, 0⟩ .start lateClient).world.moment =
          some Scope.expiredStatus ∧
      (HalfDuplex.course ⟨some ⟨1500000⟩, 0⟩ .start
        (lateClient ++ [.event .close, .poll])).said = [.finished]) := by
  refine ⟨⟨?_, ?_⟩, ?_, ?_, ?_⟩
  · rfl
  · rfl
  · rfl
  · rfl
  · rfl

end RpcConformance
