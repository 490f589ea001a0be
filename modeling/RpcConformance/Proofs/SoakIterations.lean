import RpcConformance.Proofs.ScenarioSteps
import RpcConformance.Proofs.SingleResults
import RpcConformance.Scenario.Soak

/-!
# Iterations of a soak

An iteration of a soak is entered before the overall deadline, gets a client and makes one call,
which is bounded by that deadline.  The call is answered at the latest when the timer of the
deadline fires, and then it has failed.  The time that counts as its latency begins when the client
is there.

## Main results

* `Client.unary_timely` — a call with one request is answered in time.
* `Scenarios.CallGives.exists_timely` — so is the call of an iteration, with what it gives.
* `Scenarios.Iterates.loop` — what an iteration makes of the loop.
-/

namespace RpcConformance

/-! ## A call that is bounded by a deadline -/

/-- The reference server decides on the answer to a request when the call begins. -/
theorem ReferenceServer.whole_unaryCall (server : ReferenceServer) (md : Metadata)
    (q : SimpleRequest) (sums : Inbox StreamingInputRequest)
    (outputs : Inbox StreamingOutputRequest) (now : Instant) (token : Token) :
    ∃ parts, Peer.ofHandling sums outputs (server.handle (.unaryCall q) md now token) =
      .replying parts ∧ WholeResponse parts := by
  show ∃ parts, Peer.ofHandling sums outputs (server.unaryCall md q) = .replying parts ∧ _
  unfold unaryCall
  dsimp only
  split
  · exact ⟨_, rfl, .refused _⟩
  · split
    · exact ⟨_, rfl, .refused _⟩
    · exact ⟨_, rfl, Peer.wholeResponse_single _⟩

/-- Whatever the server, its response to a call with a request leads to a result. -/
theorem Session.due_accept (s : Session) (spec : CallSpec) {q : SimpleRequest}
    (hservice : spec.service = .test) (hinvocation : spec.invocation = .unaryCall q) :
    (s.accept spec).1.peer.Scripted ∧ ∃ r, (s.accept spec).1.Due .unopened r := by
  cases hserver : s.server with
  | scripted methods =>
      have hover : (s.accept spec).1.peer.InputOver := by
        simp only [accept, hserver]
        exact Backend.inputOver_accept methods (by rw [CallSpec.isOpenEnded, hinvocation]) _ _
      obtain ⟨hpeer, houtstanding⟩ := Session.outstanding_accept hserver spec
      obtain ⟨read, hread⟩ := exists_reads_scripted methods spec
        (s.seen.countP fun c => c.path = spec.path)
      exact ⟨hpeer, read.verdict, by rw [houtstanding, hread.absorb], hover⟩
  | reference server =>
      obtain ⟨parts, hreplying, hwhole⟩ : ∃ parts,
          (s.accept spec).1.peer = .replying parts ∧ WholeResponse parts := by
        have hclosed : spec.isOpenEnded = false := by
          rw [CallSpec.isOpenEnded, hinvocation]
        simp only [accept, hserver, Backend.accept, hservice, hclosed, hinvocation]
        split
        · exact ⟨_, rfl, .refused _⟩
        · exact server.whole_unaryCall _ q _ _ _ _
      obtain ⟨read, hread⟩ := ReadResponse.exists_read (s.accept spec).1.reception hwhole
      have hparts : (s.accept spec).1.outstanding =
          (s.accept spec).1.reception.eventsOf parts := by
        show [] ++ _ = _
        rw [hreplying]
        rfl
      rw [hreplying]
      refine ⟨trivial, read.verdict, by rw [hparts, hread.absorb], ?_⟩
      rw [hreplying]
      trivial

namespace Session

theorem lag_beginAll (slots : List Slot) (s : Session) : (beginAll slots s).2.lag = s.lag := by
  induction slots generalizing s with
  | nil => rfl
  | cons slot rest ih =>
      cases slot with
      | vacant | live => exact ih s
      | queued spec requests closed =>
          refine (ih (s.beginQueued spec requests closed).2).trans ?_
          show (s.reach spec).2.lag = s.lag
          unfold reach
          split <;> rfl

/-- Whatever a client does, a call takes as long as before. -/
theorem Steps.lag {own feeds : CallId → Prop} {s s' : Session} (h : s.Steps own feeds s') :
    s'.lag = s.lag := by
  induction h with
  | refl => rfl
  | @tail s₁ s₂ _ hstep ih =>
      refine Eq.trans ?_ ih
      cases hstep with
      | settle => exact lag_beginAll s₁.slots s₁
      | pass | newScope | begin | enqueue | touch => rfl

end Session

/-- A call is answered at an instant, at the latest when the timer of a deadline fires, and where it
has fired by then, the call has failed; then the call may take its time. -/
def AnsweredInTime (deadline begun ended : Instant) (lag : Duration) (failed : Prop) : Prop :=
  ∃ answered, begun ≤ answered ∧ (ended = answered ∨ ended = answered.later lag) ∧
    answered.millis ≤ max begun.millis deadline.tick ∧
    (Instant.fired deadline answered = true → failed)

/-- **A call with one request is answered in time**, whatever the server. -/
theorem Client.unary_timely (client : Client) (q : SimpleRequest) {o : CallOptions} {s : Session}
    {deadline : Instant} (hs : s.Scripted) (hdeadline : o.scope.deadline = some deadline) :
    ∃ res s', client.unary .test (.unaryCall q) o s = (.answered res, s') ∧ s'.Scripted ∧
      s'.lag = s.lag ∧ AnsweredInTime deadline s.moment.now s'.moment.now s.lag
        (∃ st, res = .error st) := by
  have hnew : s.OwnsNew fun _ => True := fun _ _ => trivial
  have hsteps : s.Steps (fun _ => True) (fun _ => True) (client.unary .test (.unaryCall q) o s).2 :=
    client.steps_unary .test (.unaryCall q) o hnew
  rw [unary_eq] at hsteps ⊢
  by_cases hreachable : client.reachable = true
  · obtain ⟨hpeer, r, hdue⟩ := s.due_accept (client.spec .test (.unaryCall q) o s) rfl rfl
    obtain ⟨res, s', hrun, hconcludes⟩ := Session.run_unary o.scope hs hpeer hdue
    have hrunsteps : s.Steps (fun _ => True) (fun _ => True)
        (s.run (o.scope.guard unaryOperation)
          (.fresh (.unsent (client.spec .test (.unaryCall q) o s)))).2 :=
      (unaryOperation_tame.guard o.scope).run _ trivial hnew
    rw [hrun] at hrunsteps
    rw [if_pos hreachable] at hsteps ⊢
    simp only [hrun] at hsteps ⊢
    refine ⟨res, (s'.abandon s.slots.length).delay, rfl, hconcludes.scripted.abandon _,
      hsteps.lag, s'.moment.now, hrunsteps.evolves.moment.now, Or.inr ?_,
      hconcludes.bounded deadline hdeadline, fun hfired => ?_⟩
    · rw [← hrunsteps.lag]
      rfl
    · cases res with
      | error st => exact ⟨st, rfl⟩
      | ok response =>
          refine absurd (Or.inr ?_) (hconcludes.succeeds response rfl).2
          rw [Scope.timerFired, hdeadline]
          exact hfired
  · have hrun : ∃ st, s.run (o.scope.guard (Client.failing (α := SingleResponse))) (.fresh ()) =
        (.answered (.error st), s) := by
      cases hscope : o.scope.failure? s.moment with
      | some own => exact ⟨own, Operation.run_guard_of_triggered _ _ hscope⟩
      | none => exact ⟨_, Operation.run_guard_of_first _ _ hscope rfl rfl⟩
    obtain ⟨st, hrun⟩ := hrun
    rw [if_neg hreachable, hrun]
    exact ⟨_, s, rfl, hs, rfl, s.moment.now, Instant.le_refl _, Or.inl rfl, Nat.le_max_left _ _,
      fun _ => ⟨st, rfl⟩⟩

/-- How many bytes a response brings. -/
def SingleResponse.bytes (response : SingleResponse) : Nat :=
  response.message.toSimple.payload.elim 0 (·.body.length)

/-- The response brings what was asked for, where the size is read as a word of 64 bits. -/
def SingleResponse.Fills (response : SingleResponse) (size : Int) : Prop :=
  (response.bytes : Int) = size % 2 ^ 64

namespace Scenarios

open ScenarioM

variable {ρ α β : Type}

theorem bind_of_error {m : ScenarioM ρ α} {f : α → ScenarioM ρ β} {b b' : Bench ρ} {halted : Halt}
    (h : m b = (.error halted, b')) : (m >>= f) b = (.error halted, b') := by
  simp only [bind, h]

theorem now_apply (b : Bench ρ) : (now : ScenarioM ρ Instant) b = (.ok b.session.moment.now, b) :=
  rfl

/-! ## The call of an iteration -/

/-- Nothing that a soak relies on has been disturbed: all calls still have scripted servers, a call
takes as long as before, and nothing has been reported. -/
structure Undisturbed (b b' : Bench ρ) : Prop where
  scripted : b'.session.Scripted
  lag : b'.session.lag = b.session.lag
  reporter : b'.reporter = b.reporter

theorem Undisturbed.trans {b b' b'' : Bench ρ} (h : Undisturbed b b') (h' : Undisturbed b' b'') :
    Undisturbed b b'' :=
  ⟨h'.scripted, h'.lag.trans h.lag, h'.reporter.trans h.reporter⟩

/-- The request of an iteration. -/
def largeCall (sizes : Sizes) : SimpleRequest :=
  { responseType := Payload.compressable, responseSize := sizes.largeResponse,
    payload := some ⟨Payload.compressable, List.replicate sizes.largeRequest.toNat 0⟩ }

/-- **What the call of an iteration gives.**  No request can have a negative number of bytes, and
then nothing is called.  Otherwise the large request is made, and the iteration has failed if the
call fails, or if the payload of its response has another length than was asked for. -/
inductive CallGives (client : Client) (sizes : Sizes) (scope : Scope) (b : Bench ρ) :
    Except String Unit → Bench ρ → Prop
  | unbuilt (hsize : sizes.largeRequest < 0) : CallGives client sizes scope b
      (.error ("requested a negative payload size: " ++ Decimal.signedText sizes.largeRequest)) b
  | refused {st : Status} {s' : Session} (hsize : 0 ≤ sizes.largeRequest)
      (hcall : client.unary .test (.unaryCall (largeCall sizes)) ⟨.empty, scope⟩ b.session =
        (.answered (.error st), s')) :
      CallGives client sizes scope b (.error st.describe) { b with session := s' }
  | wrong {response : SingleResponse} {s' : Session} (hsize : 0 ≤ sizes.largeRequest)
      (hcall : client.unary .test (.unaryCall (largeCall sizes)) ⟨.empty, scope⟩ b.session =
        (.answered (.ok response), s'))
      (hlength : ¬response.Fills sizes.largeResponse) :
      CallGives client sizes scope b (.error ("response payload length: got " ++
        Decimal.text response.bytes ++ ", want " ++
        Decimal.signedText sizes.largeResponse)) { b with session := s' }
  | right {response : SingleResponse} {s' : Session} (hsize : 0 ≤ sizes.largeRequest)
      (hcall : client.unary .test (.unaryCall (largeCall sizes)) ⟨.empty, scope⟩ b.session =
        (.answered (.ok response), s'))
      (hlength : response.Fills sizes.largeResponse) :
      CallGives client sizes scope b (.ok ()) { b with session := s' }

section CallGives

variable {client : Client} {sizes : Sizes} {scope : Scope} {b b' : Bench ρ}

theorem largeRequestOf_of_neg (h : sizes.largeRequest < 0) :
    largeRequestOf sizes = .error (.negativeSize sizes.largeRequest) := by
  obtain ⟨n, hn⟩ := Int.eq_negSucc_of_lt_zero h
  rw [largeRequestOf, hn]
  rfl

theorem largeRequestOf_of_nonneg (h : 0 ≤ sizes.largeRequest) :
    largeRequestOf sizes = .ok (largeCall sizes) := by
  rw [largeRequestOf, zeros_of_nonneg h]
  rfl

theorem unary_apply {invocation : Invocation} {o : CallOptions}
    {res : Except Status SingleResponse} {s' : Session}
    (hcall : client.unary .test invocation o b.session = (.answered res, s')) :
    unary client .test invocation o b = (.ok res, { b with session := s' }) := by
  simp only [unary, await, hcall]

/-- The scenario looks at the same number of bytes. -/
theorem payloadLength_message (response : SingleResponse) :
    payloadLength response.message.toSimple.payload = response.bytes := by
  unfold SingleResponse.bytes
  cases response.message.toSimple.payload <;> rfl

theorem fills_iff {response : SingleResponse} {size : Int} :
    response.Fills size ↔ response.bytes = wordSize size := by
  have hword : (wordSize size : Int) = size % 2 ^ 64 :=
    Int.toNat_of_nonneg (Int.emod_nonneg size (by decide))
  rw [SingleResponse.Fills, ← hword, Int.natCast_inj]

/-- The scenario makes this call, and takes from it what it gives. -/
theorem CallGives.soakCall_eq {r : Except String Unit} (h : CallGives client sizes scope b r b') :
    soakCall client sizes scope b = (.ok r, b') := by
  cases h with
  | unbuilt hsize =>
      rw [soakCall, largeRequestOf_of_neg hsize]
      rfl
  | refused hsize hcall =>
      rw [soakCall, largeRequestOf_of_nonneg hsize]
      exact bind_of_ok (unary_apply hcall)
  | wrong hsize hcall hlength =>
      rw [soakCall, largeRequestOf_of_nonneg hsize]
      refine (bind_of_ok (unary_apply hcall)).trans ?_
      dsimp only
      rw [payloadLength_message, if_neg (mt fills_iff.mpr hlength)]
      rfl
  | right hsize hcall hlength =>
      rw [soakCall, largeRequestOf_of_nonneg hsize]
      refine (bind_of_ok (unary_apply hcall)).trans ?_
      dsimp only
      rw [payloadLength_message, if_pos (fills_iff.mp hlength)]
      rfl

end CallGives

/-- **The call of an iteration is answered in time.** -/
theorem CallGives.exists_timely (client : Client) (sizes : Sizes) (scope : Scope) {b : Bench ρ}
    {deadline : Instant} (hs : b.session.Scripted) (hdeadline : scope.deadline = some deadline) :
    ∃ r b', CallGives client sizes scope b r b' ∧ Undisturbed b b' ∧
      AnsweredInTime deadline b.session.moment.now b'.session.moment.now b.session.lag
        (∃ reason, r = .error reason) := by
  by_cases hsize : sizes.largeRequest < 0
  · exact ⟨_, b, .unbuilt hsize, ⟨hs, rfl, rfl⟩, b.session.moment.now, Instant.le_refl _,
      Or.inl rfl, Nat.le_max_left _ _, fun _ => ⟨_, rfl⟩⟩
  have hnonneg : 0 ≤ sizes.largeRequest := Int.not_lt.mp hsize
  obtain ⟨res, s', hcall, hscripted, hlag, answered, hbegun, hended, hbounded, hfailed⟩ :=
    client.unary_timely (largeCall sizes) (o := ⟨.empty, scope⟩) hs hdeadline
  have hundisturbed : Undisturbed b { b with session := s' } := ⟨hscripted, hlag, rfl⟩
  cases res with
  | error st =>
      exact ⟨_, _, .refused hnonneg hcall, hundisturbed, answered, hbegun, hended, hbounded,
        fun _ => ⟨_, rfl⟩⟩
  | ok response =>
      by_cases hlength : response.Fills sizes.largeResponse
      · refine ⟨_, _, .right hnonneg hcall hlength, hundisturbed, answered, hbegun, hended,
          hbounded, fun hfired => ?_⟩
        obtain ⟨st, hst⟩ := hfailed hfired
        cases hst
      · exact ⟨_, _, .wrong hnonneg hcall hlength, hundisturbed, answered, hbegun, hended,
          hbounded, fun _ => ⟨_, rfl⟩⟩

theorem soakCall_timely (client : Client) (sizes : Sizes) (scope : Scope) {b : Bench ρ}
    {deadline : Instant} (hs : b.session.Scripted) (hdeadline : scope.deadline = some deadline) :
    ∃ r b', soakCall client sizes scope b = (.ok r, b') ∧ Undisturbed b b' ∧
      AnsweredInTime deadline b.session.moment.now b'.session.moment.now b.session.lag
        (∃ reason, r = .error reason) := by
  obtain ⟨r, b', hgives, htimely⟩ := CallGives.exists_timely client sizes scope hs hdeadline
  exact ⟨r, b', hgives.soakCall_eq, htimely⟩

/-! ## Iterations -/

/-- What there is to know of an iteration: when it was entered, when its client was there, when its
call was over, and what the call gave. -/
structure Iteration where
  entered : Instant
  begun : Instant
  ended : Instant
  answer : Except String Unit

namespace Iteration

/-- How long the call took. -/
def latency (i : Iteration) : Duration := ⟨i.ended.nanos - i.begun.nanos⟩

def result (plan : SoakPlan) (i : Iteration) : IterationResult :=
  iterationResult plan i.answer i.latency

/-- The call failed, or it took longer than it may. -/
def Failed (plan : SoakPlan) (i : Iteration) : Prop :=
  (∃ reason, i.answer = .error reason) ∨ plan.maxLatency < i.latency

instance (plan : SoakPlan) (i : Iteration) : Decidable (i.Failed plan) :=
  match h : i.answer with
  | .error reason => .isTrue (.inl ⟨reason, h⟩)
  | .ok () =>
    if hslow : plan.maxLatency < i.latency then .isTrue (.inr hslow)
    else .isFalse fun hfailed => hfailed.elim (by rw [h]; exact nofun) hslow

end Iteration

/-- The client of an iteration: a new one where each is to have its own, or that of the context. -/
inductive Equips (c : Context) (channel : ScenarioM ρ Client) (b : Bench ρ) :
    Client → Bench ρ → Prop
  | kept (h : c.soak.resetChannel = false) : Equips c channel b c.client b
  | renewed {client : Client} {b' : Bench ρ} (h : c.soak.resetChannel = true)
      (hchannel : channel b = (.ok client, b')) : Equips c channel b client b'

theorem Equips.iterationClient_eq {c : Context} {channel : ScenarioM ρ Client} {b b' : Bench ρ}
    {client : Client} (h : Equips c channel b client b') :
    iterationClient c channel b = (.ok client, b') := by
  cases h with
  | kept h =>
      rw [iterationClient, h]
      rfl
  | renewed h hchannel => rw [iterationClient, if_pos h, hchannel]

/-- An iteration of the loop: it is entered before the deadline, with the client or a new one, and
its call is bounded by the deadline. -/
inductive Iterates (c : Context) (channel : ScenarioM ρ Client) (deadline : Instant)
    (number : Nat) (b : Bench ρ) : Iteration → Bench ρ → Prop
  | intro {client : Client} {scope : Scope} {r : Except String Unit} {b₁ b₂ b₃ : Bench ρ}
      {i : Iteration} (hearly : b.session.moment.now < deadline)
      (hclient : Equips c channel b client b₁)
      (hscope : newScope (some deadline) b₁ = (.ok scope, b₂))
      (hcall : CallGives client c.sizes scope b₂ r b₃)
      (hi : i = ⟨b.session.moment.now, b₁.session.moment.now, b₃.session.moment.now, r⟩) :
      Iterates c channel deadline number b i
        { b₃ with log := b₃.log ++ [iterationLine c.soak number (i.result c.soak) i.latency] }

/-- A way to new clients: it gives one and disturbs nothing, however long it takes, or it ends the
scenario with a fatal failure. -/
def Connects (channel : ScenarioM ρ Client) : Prop :=
  ∀ b, b.session.Scripted → (∃ client b', channel b = (.ok client, b') ∧ Undisturbed b b') ∨
    ∃ f b', channel b = (.error (.fatal f), b')

variable {c : Context} {channel : ScenarioM ρ Client} {deadline : Instant}

theorem not_le_of_lt_instant {a b : Instant} (h : a < b) : ¬b ≤ a := Nat.not_le.mpr h

/-- **What an iteration makes of the loop.** -/
theorem Iterates.loop {s : SoakState} {b b' : Bench ρ} {i : Iteration}
    (h : Iterates c channel deadline s.done b i b') (left : Nat) :
    soakLoop c channel deadline (left + 1) s b =
      soakLoop c channel deadline left (s.count (i.result c.soak) i.latency) b' := by
  cases h with
  | @intro client scope r b₁ b₂ b₃ _ hearly hclient hscope hcall hi =>
      rw [soakLoop, bind_of_ok (now_apply b), if_neg (not_le_of_lt_instant hearly),
        bind_of_ok hclient.iterationClient_eq, bind_of_ok (now_apply b₁), bind_of_ok hscope,
        bind_of_ok hcall.soakCall_eq, bind_of_ok (now_apply b₃), hi]
      rfl

/-- The loop ends at the deadline. -/
theorem soakLoop_of_late {b : Bench ρ} (h : deadline ≤ b.session.moment.now) (left : Nat)
    (s : SoakState) : soakLoop c channel deadline left s b = (.ok s, b) := by
  cases left with
  | zero => rfl
  | succ left =>
      rw [soakLoop, bind_of_ok (now_apply b), if_pos h]
      rfl

/-- It ends at once when there is no new client. -/
theorem soakLoop_of_unconnected {b b' : Bench ρ} {f : Fatal}
    (hearly : b.session.moment.now < deadline) (hreset : c.soak.resetChannel = true)
    (hchannel : channel b = (.error (.fatal f), b')) (left : Nat) (s : SoakState) :
    soakLoop c channel deadline (left + 1) s b = (.error (.fatal f), b') := by
  have hclient : iterationClient c channel b = (.error (.fatal f), b') := by
    rw [iterationClient, if_pos hreset, hchannel]
  rw [soakLoop, bind_of_ok (now_apply b), if_neg (not_le_of_lt_instant hearly),
    bind_of_error hclient]

/-- **Before the deadline there is an iteration**, and its call is answered in time, unless there is
no new client. -/
theorem Connects.iterates (h : Connects channel) {b : Bench ρ} (hs : b.session.Scripted)
    (hearly : b.session.moment.now < deadline) (number : Nat) :
    (∃ i b', Iterates c channel deadline number b i b' ∧ Undisturbed b b' ∧
      AnsweredInTime deadline i.begun i.ended b.session.lag (∃ reason, i.answer = .error reason)) ∨
    c.soak.resetChannel = true ∧ ∃ f b', channel b = (.error (.fatal f), b') := by
  have hclient : (∃ client b₁, Equips c channel b client b₁ ∧ Undisturbed b b₁) ∨
      c.soak.resetChannel = true ∧ ∃ f b', channel b = (.error (.fatal f), b') := by
    cases hreset : c.soak.resetChannel with
    | false => exact Or.inl ⟨c.client, b, .kept hreset, hs, rfl, rfl⟩
    | true =>
        rcases h b hs with ⟨client, b₁, hchannel, hkept⟩ | hfatal
        · exact Or.inl ⟨client, b₁, .renewed hreset hchannel, hkept⟩
        · exact Or.inr ⟨rfl, hfatal⟩
  refine hclient.imp_left fun ⟨client, b₁, hclient, hkept⟩ => ?_
  have hscope : (newScope (some deadline) : ScenarioM ρ Scope) b₁ =
      (.ok ⟨some deadline, b₁.session.nextToken⟩,
        { b₁ with session := { b₁.session with nextToken := b₁.session.nextToken + 1 } }) := rfl
  obtain ⟨r, b₃, hcall, hkept', htimely⟩ := CallGives.exists_timely client c.sizes
    ⟨some deadline, b₁.session.nextToken⟩
    (b := { b₁ with session := { b₁.session with nextToken := b₁.session.nextToken + 1 } })
    hkept.scripted rfl
  have hkept₃ : Undisturbed b b₃ :=
    ⟨hkept'.scripted, hkept'.lag.trans hkept.lag, hkept'.reporter.trans hkept.reporter⟩
  refine ⟨_, _, .intro hearly hclient hscope hcall rfl, ⟨hkept₃.scripted, hkept₃.lag,
    hkept₃.reporter⟩, ?_⟩
  rw [← hkept.lag]
  exact htimely

end Scenarios

end RpcConformance
