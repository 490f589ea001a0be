import RpcConformance.Proofs.Conversations

/-!
# A conversation with a request that cannot be answered

A half-duplex conversation has all of its requests before it answers the first one, but it looks
at each of them only when that request's turn has come.  So a request with an unsupported payload
type, a negative size or a negative interval ends the conversation where it stands: the requests
before it have had all of their responses by then, it has none, and the ones behind it are not
looked at.  No response comes before the refusal exactly if nothing was asked for before it.

## Main results

* `length_rounds` — so many rounds of polls and time bring so many items.
* `refused_where_it_stands` — all that such a conversation says, and that it comes to the end.
* `one_response_before_the_refusal` — a refusal behind a response.
-/

namespace RpcConformance

/-- A script that has been followed for as many items as it has has been said. -/
theorem Follows.isPrefix_of_length_le {script items : List Item} {settled : Prop}
    (h : Follows script settled items) (hlength : script.length ≤ items.length) :
    script <+: items := by
  rcases h with hbegun | ⟨-, again, rfl⟩
  · obtain rfl := hbegun.eq_of_length_le hlength
    exact List.prefix_refl _
  · exact List.prefix_append _ _

namespace HalfDuplex

variable {scope : Scope} {m : Moment} {beats : List (Beat (ClientAct StreamingOutputRequest))}

/-- A scope that is untriggered at the end of a schedule has been so before. -/
theorem untriggered_of_append (more : List (Beat (ClientAct StreamingOutputRequest)))
    (h : scope.failure? (course scope m (beats ++ more)).world.moment = none) :
    scope.failure? (course scope m beats).world.moment = none := by
  induction more using List.reverseRecOn with
  | nil => rwa [List.append_nil] at h
  | append_singleton more b ih =>
      rw [← List.append_assoc, course_concat] at h
      exact ih (untriggered_of_beat h)

/-- Rounds of a poll, the passing of time and another poll. -/
def rounds (gap : Gap) : Nat → List (Beat (ClientAct StreamingOutputRequest))
  | 0 => []
  | n + 1 => rounds gap n ++ [.poll, .event (.pass gap), .poll]

/-- **Each round brings an item**, once the input is over and if it has time for the longest
pause. -/
theorem length_rounds (gap : Gap) (n : Nat) (hover : (ClientSide.sent beats).ending ≠ .ongoing)
    (hlong : ∀ r ∈ (ClientSide.sent beats).requests, ∀ p ∈ r.parameters,
      1000 * p.intervalMicros.toNat + 999999 ≤ gap.elapsed.nanos)
    (huntriggered : scope.failure? (course scope m (beats ++ rounds gap n)).world.moment = none) :
    n ≤ (course scope m (beats ++ rounds gap n)).items.length := by
  induction n with
  | zero => exact Nat.zero_le _
  | succ n ih =>
      rw [rounds, ← List.append_assoc] at huntriggered ⊢
      have hbefore := untriggered_of_append _ huntriggered
      have hsent := ClientSide.sent_append_of_over hover (rounds gap n)
      have hlonger := goes_on scope m (beats ++ rounds gap n) gap hbefore
        (by rw [hsent]; exact hover) (by rw [hsent]; exact hlong)
      exact Nat.lt_of_le_of_lt (ih hbefore) hlonger

/-! ## The refusal -/

/-- What a conversation says up to a request that is refused: the responses to the requests
before it, and the refusal. -/
def refusedScript (earlier : List StreamingOutputRequest) (st : Status) : List Item :=
  earlier.flatMap StreamingOutputRequest.responses ++ [.failed st]

/-- A request that does not fail has a response for each of its parameters. -/
theorem responses_eq_nil_iff {r : StreamingOutputRequest} (h : r.failure? = none) :
    r.responses = [] ↔ r.parameters = [] := by
  rcases answerable_or_fault r.responseType r.parameters with hanswerable | ⟨st, hfault⟩
  · rw [StreamingOutputRequest.responses_of_answerable hanswerable, List.map_eq_nil_iff]
  · rw [StreamingOutputRequest.failure?_of_fault hfault] at h
    cases h

theorem isResponse_of_mem_responses {r : StreamingOutputRequest} {i : Item}
    (h : i ∈ r.responses) : ∃ p, i = .response p := by
  rcases answerable_or_fault r.responseType r.parameters with hanswerable | ⟨st, hfault⟩
  · rw [StreamingOutputRequest.responses_of_answerable hanswerable] at h
    obtain ⟨p, -, rfl⟩ := List.mem_map.mp h
    exact ⟨_, rfl⟩
  · rw [StreamingOutputRequest.responses_of_fault hfault] at h
    cases h

/-- No response comes before the refusal exactly if nothing was asked for before it. -/
theorem no_response_iff {earlier : List StreamingOutputRequest} (st : Status)
    (hearlier : ∀ q ∈ earlier, q.failure? = none) :
    (∀ p, .response p ∉ refusedScript earlier st) ↔ ∀ q ∈ earlier, q.parameters = [] := by
  constructor
  · intro hnone q hq
    rw [← responses_eq_nil_iff (hearlier q hq), List.eq_nil_iff_forall_not_mem]
    intro i hi
    obtain ⟨p, rfl⟩ := isResponse_of_mem_responses hi
    exact hnone p (List.mem_append_left _ (List.mem_flatMap.mpr ⟨q, hq, hi⟩))
  · intro hblank p hp
    rcases List.mem_append.mp hp with hp | hp
    · obtain ⟨q, hq, hi⟩ := List.mem_flatMap.mp hp
      rw [(responses_eq_nil_iff (hearlier q hq)).mpr (hblank q hq)] at hi
      cases hi
    · cases List.mem_singleton.mp hp

/-- **A conversation is refused where the request at fault stands.**  When the client has closed
its side and the first request that fails cannot be answered, the conversation says the responses
to the requests before it and then an InvalidArgument, and nothing but its end after that; it gets
so far if it is polled and has the time; and it says no response at all exactly if the requests
before the one at fault asked for none. -/
theorem refused_where_it_stands (scope : Scope) (m : Moment)
    (beats : List (Beat (ClientAct StreamingOutputRequest)))
    {earlier later : List StreamingOutputRequest} {r : StreamingOutputRequest} {st : Status}
    (hsent : ClientSide.sent beats = ⟨earlier ++ r :: later, .closed⟩)
    (hearlier : ∀ q ∈ earlier, q.failure? = none)
    (hfault : RequestFault r.responseType r.parameters st)
    (huntriggered : scope.failure? (course scope m beats).world.moment = none) :
    st.code = .invalidArgument ∧
    Follows (refusedScript earlier st) True (course scope m beats).said ∧
    (∀ gap n, (refusedScript earlier st).length ≤ n →
      (∀ q ∈ earlier ++ r :: later, ∀ p ∈ q.parameters,
        1000 * p.intervalMicros.toNat + 999999 ≤ gap.elapsed.nanos) →
      scope.failure? (course scope m (beats ++ rounds gap n)).world.moment = none →
      refusedScript earlier st <+: (course scope m (beats ++ rounds gap n)).said) ∧
    ((∀ p, .response p ∉ refusedScript earlier st) ↔ ∀ q ∈ earlier, q.parameters = []) := by
  have hover : (ClientSide.sent beats).ending ≠ .ongoing := by
    rw [hsent]
    exact nofun
  have hreplay : (ClientSide.sent beats).replay = refusedScript earlier st := by
    rw [ClientSide.replay_eq_dialogue hover (by rw [hsent]; rfl), ClientSide.dialogue, hsent,
      conversation_of_failure hearlier (StreamingOutputRequest.failure?_of_fault hfault),
      StreamingOutputRequest.responses_of_fault hfault, List.nil_append, refusedScript]
  have hfollows : ∀ more,
      scope.failure? (course scope m (beats ++ more)).world.moment = none →
        Follows (refusedScript earlier st) True (course scope m (beats ++ more)).said := by
    intro more hmore
    obtain ⟨phase, hstate, hheld⟩ := held_course scope m (beats ++ more) hmore
    have hfollowed := hheld.follows
    rw [ClientSide.sent_append_of_over hover, hreplay] at hfollowed
    exact hfollowed.imp_right fun h => ⟨trivial, h.2⟩
  refine ⟨hfault.code, ?_, ?_, no_response_iff st hearlier⟩
  · have hnow := hfollows []
    rw [List.append_nil] at hnow
    exact hnow huntriggered
  · intro gap n hn hlong hafter
    refine (hfollows _ hafter).isPrefix_of_length_le ?_
    have hlength := length_rounds gap n hover (by rw [hsent]; exact hlong) hafter
    rw [Course.said, List.length_map]
    exact Nat.le_trans hn hlength

/-! ## A refusal behind a response -/

/-- A client that asks for one byte, then for a negative number of them, and closes its side. -/
def unreasonableClient : List (Beat (ClientAct StreamingOutputRequest)) :=
  [.event (.send ⟨Payload.compressable, [⟨1, 0⟩], none, none⟩),
    .event (.send ⟨Payload.compressable, [⟨-1, 0⟩], none, none⟩), .event .close]

/-- The refusal of a negative number of bytes. -/
def negativeSize : Status := .invalidArgument "requested a negative payload size: -1"

theorem negativeSize_eq : negativeSize =
    .invalidArgument ("requested a negative payload size: " ++ Decimal.signedText (-1)) := by
  have hone : Decimal.digits 1 = ['1'] := by
    rw [Decimal.digits, if_pos (by decide)]
    rfl
  have htext : Decimal.signedText (-1) = String.ofList ('-' :: Decimal.digits 1) := rfl
  rw [htext, hone]
  rfl

theorem negativeSize_fault : RequestFault Payload.compressable [⟨-1, 0⟩] negativeSize := by
  rw [negativeSize_eq]
  exact @RequestFault.parameter _ _ [] [] ⟨-1, 0⟩ _ rfl rfl (by simp) (.size (by decide))

/-- Such a client gets its byte, and is refused within two rounds. -/
theorem unreasonableClient_refused :
    Follows (refusedScript [⟨Payload.compressable, [⟨1, 0⟩], none, none⟩] negativeSize) True
      (course ⟨none, 0⟩ .start unreasonableClient).said ∧
    refusedScript [⟨Payload.compressable, [⟨1, 0⟩], none, none⟩] negativeSize <+:
      (course ⟨none, 0⟩ .start (unreasonableClient ++ rounds ⟨⟨999999⟩, []⟩ 2)).said := by
  have hrefused := @refused_where_it_stands ⟨none, 0⟩ .start unreasonableClient
    [⟨Payload.compressable, [⟨1, 0⟩], none, none⟩] []
    ⟨Payload.compressable, [⟨-1, 0⟩], none, none⟩ negativeSize rfl (by decide)
    negativeSize_fault rfl
  exact ⟨hrefused.2.1, hrefused.2.2.1 ⟨⟨999999⟩, []⟩ 2 (by decide) (by decide) rfl⟩

/-- A request that cannot be answered does not keep the responses before it back: the byte comes,
and only then the refusal. -/
theorem one_response_before_the_refusal :
    ClientSide.sent unreasonableClient =
      ⟨[⟨Payload.compressable, [⟨1, 0⟩], none, none⟩,
        ⟨Payload.compressable, [⟨-1, 0⟩], none, none⟩], .closed⟩ ∧
    RequestFault Payload.compressable [⟨-1, 0⟩] negativeSize ∧
    (course ⟨none, 0⟩ .start (unreasonableClient ++ [.poll, .poll, .poll])).said =
      [.response ⟨Payload.compressable, [0]⟩, .failed negativeSize, .finished] := by
  refine ⟨rfl, negativeSize_fault, ?_⟩
  rw [negativeSize_eq]
  rfl

end HalfDuplex

end RpcConformance
