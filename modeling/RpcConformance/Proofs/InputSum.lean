import Mathlib.Algebra.Ring.Nat
import RpcConformance.Proofs.EchoParts
import RpcConformance.Proofs.RequestFeed
import RpcConformance.Proofs.WireFields

/-!
# The sum of a call's requests

The reference server answers a call with many requests at the end of its input, with the number of
payload bytes in all of them.  It gives up before that for two reasons: a request is too long to be
read, or the deadline passes that the client has announced.  At any time the requests that have
come are those that are summed up already and those that wait to be read, in their order, so
nothing is lost or counted twice on the way.

A request that is too long stands among the waiting ones like any other until the server comes to
it, and more may wait behind it.  So the state of the server is described by the requests
themselves, and the failure is a matter of reading them.

## Main results

* `summed_turn` — what one poll makes of the server.
* `Call.Sums.advance`, `Call.Sums.push` and `Call.Sums.close` — everything that can happen to the
  call while its client feeds it.
* `absorb_ofSum` — what the client makes of the answer.
-/

namespace RpcConformance

/-! ## The sum -/

/-- A request that the server refuses to read. -/
def Request.IsLong (compressed : Bool) (q : Request) : Prop :=
  compressed = false ∧ maxMessageLength < q.toInput.encodedLength

instance (compressed : Bool) (q : Request) : Decidable (q.IsLong compressed) :=
  inferInstanceAs (Decidable (_ ∧ _))

/-- The payload bytes of some requests, added to those before them, or the failure at the first
request that cannot be read. -/
def inputSum (compressed : Bool) : Nat → List Request → Except Status Nat
  | total, [] => .ok total
  | total, q :: rest =>
    if q.IsLong compressed then .error (tooLong q.toInput.encodedLength)
    else inputSum compressed (ReferenceServer.addLength total q.toInput) rest

/-- What the client reads of the answer for a sum. -/
def answerOf (sum : Except Status Nat) : Except Status SingleResponse :=
  match sum.bind ReferenceServer.aggregate with
  | .ok reply => .ok ⟨reply, .empty, .empty⟩
  | .error st => .error st.delivered

/-- What the client reads of the answer for some requests. -/
def answerTo (compressed : Bool) (requests : List Request) : Except Status SingleResponse :=
  answerOf (inputSum compressed 0 requests)

section Sum

variable {compressed : Bool} {total : Nat} {requests more : List Request} {st : Status}

/-- Requests that can all be read. -/
theorem inputSum_of_short (h : ∀ q ∈ requests, ¬q.IsLong compressed) (total : Nat) :
    inputSum compressed total requests =
      .ok (total + (requests.map fun q => payloadLength q.toInput.payload).sum) := by
  induction requests generalizing total with
  | nil => rfl
  | cons q rest ih =>
      have hrest := ih (fun q' hq' => h q' (List.mem_cons_of_mem _ hq'))
        (ReferenceServer.addLength total q.toInput)
      rw [inputSum, if_neg (h q List.mem_cons_self), hrest, List.map_cons, List.sum_cons,
        ReferenceServer.addLength, Nat.add_assoc]

theorem inputSum_append (total : Nat) (requests more : List Request) :
    inputSum compressed total (requests ++ more) =
      (inputSum compressed total requests).bind fun sum => inputSum compressed sum more := by
  induction requests generalizing total with
  | nil => rfl
  | cons q rest ih =>
      rw [List.cons_append, inputSum, inputSum]
      split
      · rfl
      · exact ih _

theorem inputSum_code (h : inputSum compressed total requests = .error st) :
    st.code = .outOfRange := by
  induction requests generalizing total with
  | nil => cases h
  | cons q rest ih =>
      rw [inputSum] at h
      split at h
      · cases h
        rfl
      · exact ih h

end Sum

/-! ## One poll -/

namespace Peer

/-- The requests that have come to the reference server and have not been read. -/
def inboxOf (compressed : Bool) (requests : List Request) (closed : Bool) :
    Inbox StreamingInputRequest :=
  ⟨requests.map fun q => arrival compressed StreamingInputRequest.encodedLength q.toInput, closed⟩

theorem arrival_eq (compressed : Bool) (q : Request) :
    arrival compressed StreamingInputRequest.encodedLength q.toInput =
      if q.IsLong compressed then .failure (tooLong q.toInput.encodedLength)
      else .message q.toInput := by
  unfold arrival Request.IsLong
  cases compressed with
  | true => rfl
  | false => simp only [Arrival.limited, true_and, Bool.false_eq_true, if_false]

end Peer

/-- The failures of a scope. -/
theorem Scope.failure?_cases {scope : Scope} {m : Moment} {own : Status}
    (h : scope.failure? m = some own) : own = cancelledStatus ∨ own = expiredStatus := by
  unfold failure? at h
  split at h
  · cases h
    exact Or.inl rfl
  · split at h <;> cases h
    exact Or.inr rfl

/-- On the side of a server no signal is given, so only the deadline counts. -/
theorem Scope.failure?_peer {scope : Scope} {now : Instant} {own : Status}
    (h : scope.failure? (Peer.moment now) = some own) :
    ∃ d, scope.deadline = some d ∧ d ≤ now ∧ own = expiredStatus := by
  unfold failure? at h
  rw [show scope.isCancelled (Peer.moment now) = false from rfl] at h
  unfold isExpired at h
  cases hdeadline : scope.deadline with
  | none => rw [hdeadline] at h; cases h
  | some d =>
      rw [hdeadline] at h
      by_cases hpassed : d ≤ (Peer.moment now).now
      · simp only [hpassed, decide_true, if_true] at h
        cases h
        exact ⟨d, rfl, hpassed, rfl⟩
      · simp only [hpassed, decide_false] at h
        cases h

section Poll

variable {scope : Scope} {compressed closed : Bool} {requests : List Request} {m : Moment}

/-- What a poll makes of the reference server, where the requests that have come add up to
`sum`. -/
inductive Summed (scope : Scope) (sum : Except Status Nat) (closed : Bool) (m : Moment) :
    Turn (Collected Nat) (Except Status Nat) × Seat StreamingInputRequest → Prop
  | triggered {own : Status} {w : Seat StreamingInputRequest} (h : scope.failure? m = some own) :
      Summed scope sum closed m (.ready (.error own), w)
  | broken {st : Status} {w : Seat StreamingInputRequest} (h : sum = .error st) :
      Summed scope sum closed m (.ready (.error st), w)
  | whole {total : Nat} {w : Seat StreamingInputRequest} (h : sum = .ok total)
      (hclosed : closed = true) : Summed scope sum closed m (.ready (.ok total), w)
  | waits {total : Nat} {w : Seat StreamingInputRequest} (h : sum = .ok total)
      (hongoing : closed = false) (hinbox : w.inbox = ⟨[], false⟩) :
      Summed scope sum closed m (.waiting ⟨total, .racing ()⟩, w)

theorem next_turn_inboxOf_cons {q : Request} {w : Seat StreamingInputRequest}
    (hinbox : w.inbox = Peer.inboxOf compressed (q :: requests) closed) :
    (q.IsLong compressed ∧ ∃ w', w'.moment = w.moment ∧ Inbox.next.turn () w =
        (.ready (.error (tooLong q.toInput.encodedLength)), w')) ∨
      (¬q.IsLong compressed ∧ Inbox.next.turn () w = (.ready (.ok (some q.toInput)),
        { w with inbox := Peer.inboxOf compressed requests closed })) := by
  have harrival := Peer.arrival_eq compressed q
  by_cases hlong : q.IsLong compressed
  · rw [if_pos hlong] at harrival
    refine Or.inl ⟨hlong, { w with inbox := ⟨[], true⟩ }, rfl, ?_⟩
    simp only [Inbox.next, hinbox, Peer.inboxOf, List.map_cons, harrival, Inbox.read]
    rfl
  · rw [if_neg hlong] at harrival
    refine Or.inr ⟨hlong, ?_⟩
    simp only [Inbox.next, hinbox, Peer.inboxOf, List.map_cons, harrival, Inbox.read]

/-- The fuel of a poll is enough for all requests that have come. -/
theorem summed_turnWithin {fuel : Nat} {c : Collected Nat} {w : Seat StreamingInputRequest}
    (hfuel : requests.length < fuel) (hinbox : w.inbox = Peer.inboxOf compressed requests closed) :
    Summed scope (inputSum compressed c.soFar requests) closed w.moment
      (Collected.turnWithin scope ReferenceServer.addLength fuel c w) := by
  induction fuel generalizing requests c w with
  | zero => exact absurd hfuel (Nat.not_lt_zero _)
  | succ fuel ih =>
      rcases c with ⟨soFar, reading⟩
      cases hseen : scope.seen? reading w.moment with
      | some own =>
          have hturn := Scope.guard_turn_of_seen scope Inbox.next (w := w) hseen
          simp only [Collected.turnWithin, hturn]
          exact .triggered (Scope.failure?_of_seen hseen)
      | none =>
          have hturn := Scope.guard_turn_of_unseen scope Inbox.next (w := w) hseen
          cases requests with
          | nil =>
              cases closed with
              | false =>
                  have hnext : Inbox.next.turn reading.inner w = (.waiting (), w) := by
                    rcases w with ⟨m, inbox⟩
                    dsimp only at hinbox
                    subst hinbox
                    rfl
                  rw [hnext] at hturn
                  simp only [Collected.turnWithin, hturn, Scope.passOn]
                  exact .waits rfl rfl hinbox
              | true =>
                  have hnext : Inbox.next.turn reading.inner w = (.ready (.ok none), w) := by
                    rcases w with ⟨m, inbox⟩
                    dsimp only at hinbox
                    subst hinbox
                    rfl
                  rw [hnext] at hturn
                  simp only [Collected.turnWithin, hturn, Scope.passOn]
                  exact .whole rfl rfl
          | cons q rest =>
              rcases next_turn_inboxOf_cons hinbox with
                ⟨hlong, w', hmoment, hnext⟩ | ⟨hshort, hnext⟩
              · rw [show reading.inner = () from rfl, hnext] at hturn
                simp only [Collected.turnWithin, hturn, Scope.passOn, inputSum, if_pos hlong]
                rw [show Timeline.moment w' = w.moment from hmoment]
                cases hscope : scope.failure? w.moment with
                | none =>
                    rw [Scope.overrule_of_untriggered _ hscope]
                    exact .broken rfl
                | some own =>
                    have hcode : own.code ≠ (tooLong q.toInput.encodedLength).code := by
                      rcases Scope.failure?_cases hscope with rfl | rfl <;> rintro ⟨⟩
                    have hown :
                        scope.overrule w.moment (tooLong q.toInput.encodedLength) = own := by
                      simp only [Scope.overrule, hscope, if_neg hcode]
                    rw [hown]
                    exact .triggered hscope
              · rw [show reading.inner = () from rfl, hnext] at hturn
                simp only [Collected.turnWithin, hturn, Scope.passOn, inputSum, if_neg hshort]
                exact ih (c := .start (ReferenceServer.addLength soFar q.toInput))
                  (w := { w with inbox := Peer.inboxOf compressed rest closed })
                  (Nat.lt_of_succ_lt_succ hfuel) rfl

/-- **What one poll makes of the reference server.** -/
theorem summed_turn (scope : Scope) (c : Collected Nat) {w : Seat StreamingInputRequest}
    (hinbox : w.inbox = Peer.inboxOf compressed requests closed) :
    Summed scope (inputSum compressed c.soFar requests) closed w.moment
      ((ReferenceServer.sum scope).turn c w) := by
  refine summed_turnWithin ?_ hinbox
  rw [hinbox, Peer.inboxOf, List.length_map]
  exact Nat.lt_succ_self _

end Poll

/-! ## The answer -/

/-- What the reference server has come to: the sum of a whole input, the failure of reading it, or
the end of its own time. -/
inductive SumResult (scope : Scope) (compressed : Bool) (requests : List Request) (closed : Bool)
    (now : Instant) : Except Status Nat → Prop
  | whole {total : Nat} (hclosed : closed = true)
      (h : inputSum compressed 0 requests = .ok total) :
      SumResult scope compressed requests closed now (.ok total)
  | broken {st : Status} (h : inputSum compressed 0 requests = .error st) :
      SumResult scope compressed requests closed now (.error st)
  | expired {d : Instant} (hdeadline : scope.deadline = some d) (hpassed : d ≤ now) :
      SumResult scope compressed requests closed now (.error Scope.expiredStatus)

section Answer

variable {scope : Scope} {compressed closed : Bool} {requests : List Request} {now : Instant}
  {r : Except Status Nat}

theorem SumResult.close (h : SumResult scope compressed requests closed now r) :
    SumResult scope compressed requests true now r := by
  cases h with
  | whole _ hsum => exact .whole rfl hsum
  | broken hsum => exact .broken hsum
  | expired hdeadline hpassed => exact .expired hdeadline hpassed

theorem SumResult.mono {later : Instant} (h : SumResult scope compressed requests closed now r)
    (hlater : now ≤ later) : SumResult scope compressed requests closed later r := by
  cases h with
  | whole hclosed hsum => exact .whole hclosed hsum
  | broken hsum => exact .broken hsum
  | expired hdeadline hpassed => exact .expired hdeadline (Instant.le_trans hpassed hlater)

theorem SumResult.code_ne_ok {st : Status}
    (h : SumResult scope compressed requests closed now (.error st)) : st.code ≠ .ok := by
  cases h with
  | broken hsum =>
      rw [inputSum_code hsum]
      exact nofun
  | expired => exact nofun

/-- A sum is never too long to be read. -/
theorem encodedLength_aggregate (total : Int) :
    (Reply.aggregate total).encodedLength ≤ maxMessageLength := by
  have hfield : (Wire.writeInt32Field 1 total).length ≤ 11 :=
    Wire.length_writeInt32Field_le total (by decide)
  have hlimit : 11 ≤ maxMessageLength := by decide
  exact Nat.le_trans hfield hlimit

/-- How the client reads the answer to a call with many requests. -/
def summing (compressed : Bool) : Reception := ⟨.streamingInputCall, compressed, false⟩

theorem eventsOf_sum (compressed : Bool) (total : Nat) :
    (summing compressed).eventsOf (Peer.single ⟨.aggregate total, .empty, none⟩) =
      [.opened .empty, .message (.aggregate total), .ended .success] :=
  Reception.eventsOf_single rfl rfl (Or.inr (encodedLength_aggregate total))

theorem eventsOf_refusal (compressed : Bool) {st : Status} (h : st.code ≠ .ok) :
    (summing compressed).eventsOf [.refusal st] = [.ended st.delivered] := by
  simp only [Reception.eventsOf, Reception.events_refusal h, List.append_nil]

theorem aggregate_code {total : Nat} {st : Status}
    (h : ReferenceServer.aggregate total = .error st) : st.code = .invalidArgument := by
  unfold ReferenceServer.aggregate at h
  split at h <;> cases h
  rfl

theorem Status.delivered_code (st : Status) :
    st.delivered.code = st.code ∨ st.delivered.code = .unknown := by
  unfold delivered
  split
  · exact Or.inl rfl
  · exact Or.inr rfl

/-- An answer never has the code Internal. -/
theorem answerTo_code_ne_internal {st : Status} (h : answerTo compressed requests = .error st) :
    st.code ≠ .internal := by
  unfold answerTo answerOf at h
  split at h
  · cases h
  · rename_i own hown
    have hcode : own.code = .outOfRange ∨ own.code = .invalidArgument := by
      cases hsum : inputSum compressed 0 requests with
      | error own' =>
          rw [hsum] at hown
          cases hown
          exact Or.inl (inputSum_code hsum)
      | ok total =>
          rw [hsum] at hown
          exact Or.inr (aggregate_code hown)
    cases h
    rcases own.delivered_code with hkept | hlost
    · rw [hkept]
      rcases hcode with hcode | hcode <;> rw [hcode] <;> exact nofun
    · rw [hlost]
      exact nofun

/-- **What the client makes of the answer.** -/
theorem absorb_ofSum (h : SumResult scope compressed requests closed now r) :
    Single.absorb .unopened ((summing compressed).eventsOf (Peer.ofSum r)) =
      .ready (answerOf r) := by
  cases r with
  | error st =>
      have hevents := eventsOf_refusal compressed h.code_ne_ok
      show Single.absorb .unopened ((summing compressed).eventsOf [.refusal st]) = _
      rw [hevents]
      rfl
  | ok total =>
      by_cases hfits : total < int32Limit
      · have haggregate : ReferenceServer.aggregate total = .ok (.aggregate total) := if_pos hfits
        have hevents := eventsOf_sum compressed total
        simp only [Peer.ofSum, answerOf, Except.bind, haggregate, hevents]
        rfl
      · obtain ⟨st, haggregate⟩ : ∃ st, ReferenceServer.aggregate total = .error st :=
          ⟨_, if_neg hfits⟩
        have hcode : st.code ≠ .ok := by
          rw [aggregate_code haggregate]
          exact nofun
        have hevents := eventsOf_refusal compressed hcode
        simp only [Peer.ofSum, answerOf, Except.bind, haggregate, hevents]
        rfl

end Answer

/-! ## The call -/

namespace Call

variable {scope : Scope} {compressed closed : Bool} {requests : List Request} {now : Instant}
  {c : Call}

/-- The reference server has come to a result and said all that it has to say. -/
inductive Answered (scope : Scope) (compressed : Bool) (requests : List Request) (closed : Bool)
    (now : Instant) : Call → Prop
  | mk {r : Except Status Nat} {unsettled : Nat}
      (h : SumResult scope compressed requests closed now r) :
      Answered scope compressed requests closed now
        ⟨.replying [], summing compressed, (summing compressed).eventsOf (Peer.ofSum r), unsettled⟩

/-- The reference server sums up the requests of a call, of which it has read the first ones, or
it has answered. -/
inductive Sums (scope : Scope) (compressed : Bool) (requests : List Request) (closed : Bool)
    (now : Instant) : Call → Prop
  | reading {state : Collected Nat} {read pending : List Request} {unsettled : Nat}
      (hrequests : requests = read ++ pending)
      (hread : inputSum compressed 0 read = .ok state.soFar) :
      Sums scope compressed requests closed now
        ⟨.summing scope state (Peer.inboxOf compressed pending closed), summing compressed, [],
          unsettled⟩
  | answered {c : Call} (h : c.Answered scope compressed requests closed now) :
      Sums scope compressed requests closed now c

/-- A server that has said all that it has to say says no more. -/
theorem advance_silent (later : Instant) (reception : Reception) (waiting : List Event)
    (unsettled : Nat) :
    advance later ⟨.replying [], reception, waiting, unsettled⟩ =
      ⟨.replying [], reception, waiting, 0⟩ := by
  rw [advance, advanceWithin_replying later rfl (Nat.zero_le _)]
  simp only [Reception.eventsOf, List.foldl_nil, List.append_nil]

theorem Answered.advance (h : c.Answered scope compressed requests closed now) (later : Instant) :
    (c.advance later).Answered scope compressed requests closed now := by
  cases h with
  | mk hresult =>
      rw [advance_silent]
      exact .mk hresult

/-- A server with a result sends the whole answer at once. -/
theorem advanceWithin_ofSum (later : Instant) {r : Except Status Nat} {unsettled : Nat} :
    advanceWithin later 5 ⟨.replying (Peer.ofSum r), summing compressed, [], unsettled⟩ =
      ⟨.replying [], summing compressed, (summing compressed).eventsOf (Peer.ofSum r),
        unsettled⟩ := by
  have hparts : (Peer.ofSum r).length ≤ 5 ∧
      (Peer.ofSum r).foldl Reception.after (summing compressed) = summing compressed := by
    unfold Peer.ofSum
    split
    · exact ⟨show 3 ≤ 5 by decide, rfl⟩
    · exact ⟨show 1 ≤ 5 by decide, rfl⟩
  rw [advanceWithin_replying later rfl hparts.1]
  simp only [hparts.2, List.nil_append]

section Poll

variable {state : Collected Nat} {inbox : Inbox StreamingInputRequest} {unsettled : Nat}
  {w : Seat StreamingInputRequest}

/-- A server that has come to a result says all of it at once. -/
theorem advance_of_ready {r : Except Status Nat}
    (hturn : (ReferenceServer.sum scope).turn state ⟨Peer.moment now, inbox⟩ = (.ready r, w)) :
    advance now ⟨.summing scope state inbox, summing compressed, [], unsettled⟩ =
      ⟨.replying [], summing compressed, (summing compressed).eventsOf (Peer.ofSum r), 0⟩ := by
  have hwithin :
      advanceWithin now 6 ⟨.summing scope state inbox, summing compressed, [], unsettled⟩ =
        advanceWithin now 5 ⟨.replying (Peer.ofSum r), summing compressed, [], unsettled⟩ := by
    rw [advanceWithin]
    simp only [Peer.turn, hturn]
  have hwork : (Peer.summing scope state inbox).work + 1 = 6 := rfl
  rw [advance, hwork, hwithin, advanceWithin_ofSum]

theorem advance_of_waiting {state' : Collected Nat}
    (hturn : (ReferenceServer.sum scope).turn state ⟨Peer.moment now, inbox⟩ =
      (.waiting state', w)) :
    advance now ⟨.summing scope state inbox, summing compressed, [], unsettled⟩ =
      ⟨.summing scope state' w.inbox, summing compressed, [], 0⟩ := by
  rw [advance, advanceWithin]
  simp only [Peer.turn, hturn]

end Poll

theorem Sums.mono (h : c.Sums scope compressed requests closed now) {later : Instant}
    (hlater : now ≤ later) : c.Sums scope compressed requests closed later := by
  cases h with
  | reading hrequests hread => exact .reading hrequests hread
  | answered h =>
      cases h with
      | mk hresult => exact .answered (.mk (hresult.mono hlater))

/-- **The server goes on with the call**: at the end of the input it answers. -/
theorem Sums.advance (h : c.Sums scope compressed requests closed now) :
    (c.advance now).Sums scope compressed requests closed now ∧
      (closed = true → (c.advance now).Answered scope compressed requests closed now) := by
  have hboth : ∀ {c' : Call}, c'.Answered scope compressed requests closed now →
      c'.Sums scope compressed requests closed now ∧
        (closed = true → c'.Answered scope compressed requests closed now) :=
    fun hanswered => ⟨.answered hanswered, fun _ => hanswered⟩
  cases h with
  | answered hanswered => exact hboth (hanswered.advance now)
  | @reading state read pending unsettled hrequests hread =>
      have hsum : inputSum compressed state.soFar pending = inputSum compressed 0 requests := by
        rw [hrequests, inputSum_append, hread]
        rfl
      have hpoll := summed_turn scope state
        (w := ⟨Peer.moment now, Peer.inboxOf compressed pending closed⟩) rfl
      rw [hsum] at hpoll
      generalize hturn : (ReferenceServer.sum scope).turn state
        ⟨Peer.moment now, Peer.inboxOf compressed pending closed⟩ = result at hpoll
      cases hpoll with
      | triggered hscope =>
          obtain ⟨d, hdeadline, hpassed, rfl⟩ := Scope.failure?_peer hscope
          rw [advance_of_ready hturn]
          exact hboth (.mk (.expired hdeadline hpassed))
      | broken hbroken =>
          rw [advance_of_ready hturn]
          exact hboth (.mk (.broken hbroken))
      | whole hwhole hclosed =>
          rw [advance_of_ready hturn]
          exact hboth (.mk (.whole hclosed hwhole))
      | waits hwaits hongoing hinbox =>
          subst hongoing
          have hnone : (⟨[], false⟩ : Inbox StreamingInputRequest) =
              Peer.inboxOf compressed [] false := rfl
          rw [advance_of_waiting hturn, hinbox, hnone]
          exact ⟨.reading (List.append_nil _).symm hwaits, nofun⟩

/-- A request arrives behind the ones that wait. -/
theorem Sums.push (h : c.Sums scope compressed requests false now)
    (hreads : c.peer.reads = true) (q : Request) :
    (c.push q).Sums scope compressed (requests ++ [q]) false now := by
  cases h with
  | answered hanswered => cases hanswered; cases hreads
  | @reading state read pending unsettled hrequests hread =>
      have hpush : (Peer.summing scope state (Peer.inboxOf compressed pending false)).push
          compressed q = .summing scope state (Peer.inboxOf compressed (pending ++ [q]) false) := by
        simp only [Peer.push, Inbox.push, Peer.inboxOf, List.map_append, List.map_cons,
          List.map_nil]
      unfold Call.push
      rw [show (summing compressed).compressed = compressed from rfl, hpush]
      exact .reading (by rw [hrequests, List.append_assoc]) hread

theorem Sums.close (h : c.Sums scope compressed requests false now) :
    c.close.Sums scope compressed requests true now := by
  cases h with
  | reading hrequests hread => exact .reading hrequests hread
  | answered hanswered =>
      cases hanswered with
      | mk hresult => exact .answered (.mk hresult.close)

/-- A server that reads no more has answered. -/
theorem Sums.answered_of_unread (h : c.Sums scope compressed requests closed now)
    (hreads : c.peer.reads = false) : c.Answered scope compressed requests closed now := by
  cases h with
  | answered hanswered => exact hanswered
  | reading => cases hreads

end Call

end RpcConformance
