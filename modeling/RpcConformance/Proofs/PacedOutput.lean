import RpcConformance.Proofs.Admission
import RpcConformance.Proofs.GuardRace

/-!
# What a paced stream of responses gives

For every schedule of polls, signals and moves of the clock, a stream of responses gives a
prefix of what was asked for, one response for each parameter in order, none before its pause
is over, and none once its scope has been triggered.  After the last response comes the status
that was asked for, or the plain end; a prefix that is cut short ends with the failure of the
scope.

## Main results

* `advance_cons` — the three things a poll for the next response can do.
* `Underway` — the invariant of a stream whose request can be answered.
* `output_is_paced_prefix` — what every schedule brings.
-/

namespace RpcConformance

/-! ## Pauses -/

/-- When a pause that is polled at an instant is over. -/
def Pause.dueAt : Pause → Instant → Instant
  | .fresh d, now => now.later d
  | .until due, _ => due

/-- A timer that is late by a whole millisecond has fired. -/
theorem Instant.fired_of_later {due now : Instant} (h : due.nanos + 999999 ≤ now.nanos) :
    Instant.fired due now = true := by
  rw [fired_iff]
  omega

/-- The pause before a response is the number of microseconds that its parameter asks for. -/
theorem ResponseParameters.interval_nanos (p : ResponseParameters) :
    p.interval.nanos = 1000 * p.intervalMicros.toNat := by
  simp only [interval, Duration.ofMicros, Nat.mul_comm]

namespace Scope

variable {W : Type} [Timeline W]

theorem pause_turn_of_fired {p : Pause} {w : W}
    (h : Instant.fired (p.dueAt (Timeline.moment w).now) (Timeline.moment w).now = true) :
    pause.turn p w = (.ready (.ok ()), w) := by
  cases p <;>
    · simp only [Pause.dueAt] at h
      simp only [pause, Pause.operation, h, if_true]

theorem pause_turn_of_pending {p : Pause} {w : W}
    (h : Instant.fired (p.dueAt (Timeline.moment w).now) (Timeline.moment w).now = false) :
    pause.turn p w = (.waiting (.until (p.dueAt (Timeline.moment w).now)), w) := by
  cases p <;>
    · simp only [Pause.dueAt] at h
      simp only [pause, Pause.operation, Pause.dueAt, h, Bool.false_eq_true, if_false]

/-- What a poll of a guarded pause gives: the failure of a triggered scope, the end of the
pause in an untriggered one, or the pause that goes on. -/
theorem sleep_turn_cases (s : Scope) (g : Guarded Pause) (w : W) :
    (∃ st, s.failure? (Timeline.moment w) = some st ∧
      s.sleep.turn g w = (.ready (.error st), w)) ∨
    (s.failure? (Timeline.moment w) = none ∧
      Instant.fired (g.inner.dueAt (Timeline.moment w).now) (Timeline.moment w).now = true ∧
      s.sleep.turn g w = (.ready (.ok ()), w)) ∨
    (s.seen? g (Timeline.moment w) = none ∧
      Instant.fired (g.inner.dueAt (Timeline.moment w).now) (Timeline.moment w).now = false ∧
      s.sleep.turn g w =
        (.waiting (.racing (.until (g.inner.dueAt (Timeline.moment w).now))), w)) := by
  cases hseen : s.seen? g (Timeline.moment w) with
  | some st =>
      refine Or.inl ⟨st, failure?_of_seen hseen, ?_⟩
      simp only [sleep, guard_turn_of_seen s pause hseen]
  | none =>
      have hturn := guard_turn_of_unseen s pause hseen
      cases hfired : Instant.fired (g.inner.dueAt (Timeline.moment w).now)
          (Timeline.moment w).now with
      | false =>
          rw [pause_turn_of_pending hfired] at hturn
          refine Or.inr (Or.inr ⟨rfl, rfl, ?_⟩)
          simp only [sleep, hturn, passOn]
      | true =>
          rw [pause_turn_of_fired hfired] at hturn
          cases hfailure : s.failure? (Timeline.moment w) with
          | some st =>
              refine Or.inl ⟨st, rfl, ?_⟩
              simp only [sleep, hturn, passOn, check, hfailure]
          | none =>
              refine Or.inr (Or.inl ⟨rfl, rfl, ?_⟩)
              simp only [sleep, hturn, passOn, check, hfailure]

end Scope

namespace OutputStream

/-! ## One poll -/

/-- The pause before the next response, as a poll finds it. -/
def pauseFor (pause : Option (Scope.Guarded Pause)) (p : ResponseParameters) :
    Scope.Guarded Pause :=
  pause.getD (.fresh (.fresh p.interval))

/-- **The three things that a poll for the next response can do.**  It fails with a triggered
scope, it gives the response when the pause is over, or it waits for the end of the pause. -/
theorem advance_cons {s : OutputStream} {p : ResponseParameters}
    {rest : List ResponseParameters} (hparameters : s.parameters = p :: rest)
    (hkind : s.kind = Payload.compressable) (hsize : 0 ≤ p.size)
    (pause : Option (Scope.Guarded Pause)) (m : Moment) :
    (∃ st, s.scope.failure? m = some st ∧ s.advance pause m = .ready (s.failWith st)) ∨
    (s.scope.failure? m = none ∧
      Instant.fired ((pauseFor pause p).inner.dueAt m.now) m.now = true ∧
      s.advance pause m =
        .ready (.response p.payload, { s with parameters := rest, phase := .idle })) ∨
    (s.scope.seen? (pauseFor pause p) m = none ∧
      Instant.fired ((pauseFor pause p).inner.dueAt m.now) m.now = false ∧
      s.advance pause m = .waiting { s with
        phase := .pausing (.racing (.until ((pauseFor pause p).inner.dueAt m.now))) }) := by
  have hzeros : Payload.zeros s.kind p.size = .ok p.payload := by
    rw [hkind]
    exact zeros_of_nonneg hsize
  rcases s.scope.sleep_turn_cases (pauseFor pause p) m with
    ⟨st, hfailure, hturn⟩ | ⟨hfailure, hfired, hturn⟩ | ⟨hseen, hfired, hturn⟩
  · refine Or.inl ⟨st, hfailure, ?_⟩
    unfold pauseFor at hturn
    simp only [advance, hparameters, hturn]
  · refine Or.inr (Or.inl ⟨hfailure, hfired, ?_⟩)
    unfold pauseFor at hturn
    simp only [advance, hparameters, hturn, hzeros]
  · refine Or.inr (Or.inr ⟨hseen, hfired, ?_⟩)
    unfold pauseFor at hturn
    simp only [advance, hparameters, hturn]
    rfl

/-- Without a parameter left, the stream closes with its status or ends. -/
theorem advance_nil {s : OutputStream} (hparameters : s.parameters = [])
    (pause : Option (Scope.Guarded Pause)) (m : Moment) :
    s.advance pause m = .ready (match s.closing with
      | some st => s.failWith st
      | none => (.finished, s.stopped)) := by
  unfold advance
  rw [hparameters]
  cases s.closing <;> rfl

/-! ## What a schedule has brought -/

/-- The stream as an operation that waits for the next item. -/
def next : Operation Moment OutputStream (Item × OutputStream) :=
  ⟨fun s m => (s.turn m, m), alarm⟩

/-- The course of a stream between whose polls time passes and signals are given. -/
def course (s : OutputStream) (m : Moment) (beats : List (Beat Gap)) :
    Course Moment OutputStream Item :=
  next.follow (fun g m => m.after g) s m beats

theorem course_append (s : OutputStream) (m : Moment) (beats more : List (Beat Gap)) :
    s.course m (beats ++ more) =
      more.foldl (next.courseBeat fun g m => m.after g) (s.course m beats) :=
  Operation.follow_append beats more

/-- The responses to some parameters have been given, in order and in time: each at least as
many microseconds after the response before it as its parameter asks for, and each in a scope
that had not been triggered.  The last instant is that of the last response, or of the start. -/
inductive Sent (scope : Scope) (start : Instant) :
    List ResponseParameters → List (Item × Moment) → Instant → Prop
  | none : Sent scope start [] [] start
  | next {ps : List ResponseParameters} {items : List (Item × Moment)} {last : Instant}
      {p : ResponseParameters} {m : Moment} (earlier : Sent scope start ps items last)
      (paced : last.nanos + 1000 * p.intervalMicros.toNat ≤ m.now.nanos)
      (untriggered : scope.failure? m = Option.none) :
      Sent scope start (ps ++ [p]) (items ++ [(.response p.payload, m)]) m.now

/-- What has come after the responses, when those to the parameters `left` have not been given:
nothing yet; the closing status or the plain end, when none is left; the failure of a scope
that is triggered at that moment, when one is left; and then only the end, again and again. -/
inductive Ending (scope : Scope) (closing : Option Status) :
    List ResponseParameters → List (Item × Moment) → Prop
  | ongoing (left : List ResponseParameters) : Ending scope closing left []
  | closed {st : Status} (m : Moment) (h : closing = some st) :
      Ending scope closing [] [(.failed st, m)]
  | finished (m : Moment) (h : closing = none) : Ending scope closing [] [(.finished, m)]
  | interrupted {st : Status} {m : Moment} (p : ResponseParameters)
      (rest : List ResponseParameters) (h : scope.failure? m = some st) :
      Ending scope closing (p :: rest) [(.failed st, m)]
  | again {left : List ResponseParameters} {items : List (Item × Moment)} (m : Moment)
      (hitems : items ≠ []) (h : Ending scope closing left items) :
      Ending scope closing left (items ++ [(.finished, m)])

/-- Where a stream that goes on may be: a pause that has begun belongs to the next parameter,
and it began between the last response and now. -/
inductive Pausable (last now : Instant) (left : List ResponseParameters) : OutputPhase → Prop
  | unchecked : Pausable last now left .unchecked
  | idle : Pausable last now left .idle
  | pausing {begun : Instant} {p : ResponseParameters} {rest : List ResponseParameters}
      (hleft : left = p :: rest) (hlast : last ≤ begun) (hnow : begun ≤ now) :
      Pausable last now left (.pausing (.racing (.until (begun.later p.interval))))

/-- **The invariant of a stream whose request can be answered.**  Either it goes on, with the
responses to `done` given and those to `left` to come, or it has ended. -/
inductive Underway (scope : Scope) (parameters : List ResponseParameters)
    (closing : Option Status) (start : Instant) : Course Moment OutputStream Item → Prop
  | live {done left : List ResponseParameters} {sent : List (Item × Moment)} {last : Instant}
      {phase : OutputPhase} {m : Moment} (hsplit : parameters = done ++ left)
      (hsent : Sent scope start done sent last) (hlast : last ≤ m.now)
      (hphase : Pausable last m.now left phase) :
      Underway scope parameters closing start
        ⟨sent, ⟨scope, Payload.compressable, left, closing, phase⟩, m⟩
  | ended {done left : List ResponseParameters} {sent tail : List (Item × Moment)}
      {last : Instant} {s : OutputStream} {m : Moment} (hsplit : parameters = done ++ left)
      (hsent : Sent scope start done sent last) (htail : tail ≠ [])
      (hending : Ending scope closing left tail) (hended : s.phase = .ended) :
      Underway scope parameters closing start ⟨sent ++ tail, s, m⟩

section Underway

variable {scope : Scope} {parameters : List ResponseParameters} {closing : Option Status}
  {begin now last : Instant} {left : List ResponseParameters} {phase : OutputPhase}

/-- A stream that goes on is polled for its next response, with a pause that began between the
last response and now. -/
theorem turn_of_pausable (scope : Scope) (closing : Option Status) {m : Moment}
    (hphase : Pausable last m.now left phase)
    (hanswerable : Answerable Payload.compressable left) (hlast : last ≤ m.now) :
    ∃ pause,
      (⟨scope, Payload.compressable, left, closing, phase⟩ : OutputStream).turn m =
        (⟨scope, Payload.compressable, left, closing, phase⟩ : OutputStream).advance pause m ∧
      ∀ p rest, left = p :: rest → ∃ begun, last ≤ begun ∧ begun ≤ m.now ∧
        (pauseFor pause p).inner.dueAt m.now = begun.later p.interval := by
  have hfresh : ∀ p rest, left = p :: rest → ∃ begun, last ≤ begun ∧ begun ≤ m.now ∧
      (pauseFor none p).inner.dueAt m.now = begun.later p.interval :=
    fun p rest _ => ⟨m.now, hlast, Instant.le_refl _, rfl⟩
  cases hphase with
  | unchecked =>
      refine ⟨none, ?_, hfresh⟩
      simp only [turn, admitRequest_of_answerable hanswerable]
  | idle => exact ⟨none, rfl, hfresh⟩
  | pausing hleft hbegun hnow =>
      refine ⟨_, rfl, ?_⟩
      intro p rest hp
      rw [hleft] at hp
      cases hp
      exact ⟨_, hbegun, hnow, rfl⟩

theorem Pausable.mono {later : Instant} (h : Pausable last now left phase)
    (hlater : now ≤ later) : Pausable last later left phase := by
  cases h with
  | unchecked => exact .unchecked
  | idle => exact .idle
  | pausing hleft hbegun hnow => exact .pausing hleft hbegun (Instant.le_trans hnow hlater)

theorem Underway.event {c : Course Moment OutputStream Item}
    (h : Underway scope parameters closing begin c) (g : Gap) :
    Underway scope parameters closing begin { c with world := c.world.after g } := by
  cases h with
  | @live _ _ _ _ _ m hsplit hsent hlast hphase =>
      have hnow := Moment.now_le_after m g
      exact .live hsplit hsent (Instant.le_trans hlast hnow) (hphase.mono hnow)
  | ended hsplit hsent htail hending hended => exact .ended hsplit hsent htail hending hended

/-- A poll of a stream that goes on: a response in its time, the status or the end when no
response is left, the failure of a triggered scope, or the pause before the next response. -/
theorem underway_poll_live {done : List ResponseParameters} {sent : List (Item × Moment)}
    {m : Moment} {act : Gap → Moment → Moment}
    (hanswerable : Answerable Payload.compressable parameters)
    (hsplit : parameters = done ++ left) (hsent : Sent scope begin done sent last)
    (hlast : last ≤ m.now) (hphase : Pausable last m.now left phase) :
    Underway scope parameters closing begin
      (next.courseBeat act
        ⟨sent, ⟨scope, Payload.compressable, left, closing, phase⟩, m⟩ .poll) := by
  have hleft : Answerable Payload.compressable left :=
    ⟨rfl, fun p hp => hanswerable.2 p (hsplit ▸ List.mem_append_right done hp)⟩
  obtain ⟨pause, hturn, hpause⟩ :=
    turn_of_pausable scope closing hphase hleft hlast
  simp only [Operation.courseBeat, next, hturn]
  cases left with
  | nil =>
      rw [advance_nil rfl]
      cases closing with
      | some st => exact .ended hsplit hsent (by simp) (.closed m rfl) rfl
      | none => exact .ended hsplit hsent (by simp) (.finished m rfl) rfl
  | cons p rest =>
      obtain ⟨begun, hbegun, hnow, hdue⟩ := hpause p rest rfl
      have hsize : 0 ≤ p.size := (hleft.2 p List.mem_cons_self).1
      rcases advance_cons (s := ⟨scope, Payload.compressable, p :: rest, closing, phase⟩)
        rfl rfl hsize pause m with
        ⟨st, hfailure, hadvance⟩ | ⟨hfailure, hfired, hadvance⟩ | ⟨_, _, hadvance⟩
      · rw [hadvance]
        exact .ended hsplit hsent (by simp) (.interrupted p rest hfailure) rfl
      · rw [hadvance]
        rw [hdue] at hfired
        have hpaced : last.nanos + 1000 * p.intervalMicros.toNat ≤ m.now.nanos := by
          rw [← p.interval_nanos]
          exact Instant.le_trans (Nat.add_le_add_right hbegun _) (Instant.le_of_fired hfired)
        have hsplit' : parameters = (done ++ [p]) ++ rest := by
          rw [hsplit, List.append_assoc, List.singleton_append]
        exact .live hsplit' (.next hsent hpaced hfailure) (Instant.le_refl _) .idle
      · rw [hadvance, hdue]
        exact .live hsplit hsent hlast (.pausing rfl hbegun hnow)

/-- **Every beat keeps the invariant.** -/
theorem underway_courseBeat {c : Course Moment OutputStream Item}
    (hanswerable : Answerable Payload.compressable parameters)
    (h : Underway scope parameters closing begin c) (b : Beat Gap) :
    Underway scope parameters closing begin
      (next.courseBeat (fun g m => m.after g) c b) := by
  cases b with
  | event g => exact h.event g
  | poll =>
      cases h with
      | live hsplit hsent hlast hphase =>
          exact underway_poll_live hanswerable hsplit hsent hlast hphase
      | ended hsplit hsent htail hending hended =>
          simp only [Operation.courseBeat, next, turn, hended, List.append_assoc]
          exact .ended hsplit hsent (by simp) (.again _ htail hending) hended

theorem underway_course (scope : Scope) (closing : Option Status) {kind : Int}
    (hanswerable : Answerable kind parameters) (m : Moment) (beats : List (Beat Gap)) :
    Underway scope parameters closing m.now
      ((start scope kind parameters closing).course m beats) := by
  obtain ⟨rfl, _⟩ := id hanswerable
  refine Operation.follow_induction
    (P := fun _ c => Underway scope parameters closing m.now c) ?_ ?_ beats
  · have hsplit : parameters = [] ++ parameters := rfl
    exact .live hsplit .none (Instant.le_refl _) .unchecked
  · intro _ b c hc
    exact underway_courseBeat hanswerable hc b

/-! ## A stream does not stand still -/

/-- A pause that is over is followed by an item, and where a response was left it is not the
end. -/
theorem advance_of_fired (s : OutputStream) {g : Scope.Guarded Pause} {m : Moment}
    (h : Instant.fired (g.inner.dueAt m.now) m.now = true) :
    ∃ i s', s.advance (some g) m = .ready (i, s') ∧ (s.parameters ≠ [] → i ≠ .finished) := by
  cases hparameters : s.parameters with
  | nil =>
      rw [advance_nil hparameters]
      exact ⟨_, _, rfl, fun hnot => absurd rfl hnot⟩
  | cons p rest =>
      unfold advance
      rw [hparameters]
      dsimp only
      rcases s.scope.sleep_turn_cases g m with
        ⟨st, _, hturn⟩ | ⟨_, _, hturn⟩ | ⟨_, hpending, _⟩
      · simp only [Option.getD_some, hturn]
        exact ⟨_, _, rfl, fun _ => nofun⟩
      · simp only [Option.getD_some, hturn]
        cases Payload.zeros s.kind p.size <;> exact ⟨_, _, rfl, fun _ => nofun⟩
      · have hnot : Instant.fired (g.inner.dueAt m.now) m.now = false := hpending
        rw [h] at hnot
        cases hnot

/-- A stream that waits has begun a pause of one of its parameters. -/
theorem Underway.ready_or_pausing {c : Course Moment OutputStream Item}
    (hanswerable : Answerable Payload.compressable parameters)
    (h : Underway scope parameters closing begin c) :
    (∃ i s', c.state.turn c.world = .ready (i, s')) ∨
      ∃ s' begun p, p ∈ parameters ∧ begun ≤ c.world.now ∧ c.state.turn c.world = .waiting s' ∧
        s'.phase = .pausing (.racing (.until (begun.later p.interval))) := by
  cases h with
  | @ended _ _ _ _ _ s m hsplit hsent htail hending hended =>
      refine Or.inl ⟨.finished, s, ?_⟩
      simp only [turn, hended]
  | @live done left sent last phase m hsplit hsent hlast hphase =>
      have hmem : ∀ p ∈ left, p ∈ parameters :=
        fun p hp => hsplit ▸ List.mem_append_right done hp
      have hleft : Answerable Payload.compressable left :=
        ⟨rfl, fun p hp => hanswerable.2 p (hmem p hp)⟩
      obtain ⟨pause, hturn, hpause⟩ :=
        turn_of_pausable scope closing hphase hleft hlast
      rw [hturn]
      cases left with
      | nil =>
          rw [advance_nil rfl]
          exact Or.inl ⟨_, _, rfl⟩
      | cons p rest =>
          obtain ⟨begun, _, hnow, hdue⟩ := hpause p rest rfl
          have hsize : 0 ≤ p.size := (hleft.2 p List.mem_cons_self).1
          rcases advance_cons (s := ⟨scope, Payload.compressable, p :: rest, closing, phase⟩)
            rfl rfl hsize pause m with
            ⟨st, _, hadvance⟩ | ⟨_, _, hadvance⟩ | ⟨_, _, hadvance⟩
          · exact Or.inl ⟨_, _, hadvance⟩
          · exact Or.inl ⟨_, _, hadvance⟩
          · rw [hdue] at hadvance
            exact Or.inr ⟨_, begun, p, hmem p List.mem_cons_self, hnow, hadvance, rfl⟩

end Underway

/-- What a stream gives whose request is refused: nothing before the first poll, then the
refusal, and then only the end. -/
inductive Refused (st : Status) : List (Item × Moment) → Prop
  | unasked : Refused st []
  | told (m : Moment) : Refused st [(.failed st, m)]
  | again {items : List (Item × Moment)} (m : Moment) (hitems : items ≠ [])
      (h : Refused st items) : Refused st (items ++ [(.finished, m)])

section Refusal

variable {scope : Scope} {kind : Int} {parameters : List ResponseParameters}
  {closing : Option Status} {st : Status}

/-- **The invariant of a stream whose request is refused.**  It has not begun, or it has told
its refusal and ended. -/
def Turned (fresh : OutputStream) (st : Status) (c : Course Moment OutputStream Item) : Prop :=
  Refused st c.items ∧
    (c.items = [] ∧ c.state = fresh ∨ c.items ≠ [] ∧ c.state.phase = .ended)

theorem turned_courseBeat {c : Course Moment OutputStream Item}
    (hfault : RequestFault kind parameters st)
    (h : Turned (start scope kind parameters closing) st c) (b : Beat Gap) :
    Turned (start scope kind parameters closing) st
      (next.courseBeat (fun g m => m.after g) c b) := by
  obtain ⟨hitems, hstate⟩ := h
  cases b with
  | event g => exact ⟨hitems, hstate⟩
  | poll =>
      rcases c with ⟨items, s, m⟩
      rcases hstate with ⟨hempty, hfresh⟩ | ⟨htold, hended⟩
      · dsimp only at hempty hfresh
        subst hempty hfresh
        simp only [Operation.courseBeat, next, turn, start, admitRequest_of_fault hfault]
        exact ⟨.told m, Or.inr ⟨by simp, rfl⟩⟩
      · dsimp only at htold hended
        simp only [Operation.courseBeat, next, turn, hended]
        exact ⟨.again m htold hitems, Or.inr ⟨by simp, hended⟩⟩

theorem turned_course (hfault : RequestFault kind parameters st) (m : Moment)
    (beats : List (Beat Gap)) :
    Turned (start scope kind parameters closing) st
      ((start scope kind parameters closing).course m beats) := by
  refine Operation.follow_induction
    (P := fun _ c => Turned (start scope kind parameters closing) st c) ?_ ?_ beats
  · exact ⟨.unasked, Or.inl ⟨rfl, rfl⟩⟩
  · intro _ b c hc
    exact turned_courseBeat hfault hc b

theorem Turned.ready {c : Course Moment OutputStream Item}
    (hfault : RequestFault kind parameters st)
    (h : Turned (start scope kind parameters closing) st c) :
    ∃ i s', c.state.turn c.world = .ready (i, s') := by
  rcases h.2 with ⟨_, hfresh⟩ | ⟨_, hended⟩
  · rw [hfresh]
    simp only [turn, start, admitRequest_of_fault hfault]
    exact ⟨_, _, rfl⟩
  · refine ⟨.finished, c.state, ?_⟩
    simp only [turn, hended]

end Refusal

/-! ## Every schedule -/

section Course

variable (scope : Scope) (kind : Int) (parameters : List ResponseParameters)
  (closing : Option Status) (m : Moment) (beats : List (Beat Gap))

theorem ready_or_pausing :
    (∃ i s', ((start scope kind parameters closing).course m beats).state.turn
      ((start scope kind parameters closing).course m beats).world = .ready (i, s')) ∨
    ∃ s' begun p, p ∈ parameters ∧
      begun ≤ ((start scope kind parameters closing).course m beats).world.now ∧
      ((start scope kind parameters closing).course m beats).state.turn
        ((start scope kind parameters closing).course m beats).world = .waiting s' ∧
      s'.phase = .pausing (.racing (.until (begun.later p.interval))) := by
  rcases answerable_or_fault kind parameters with hanswerable | ⟨st, hfault⟩
  · obtain ⟨rfl, hall⟩ := id hanswerable
    exact (underway_course scope closing hanswerable m beats).ready_or_pausing hanswerable
  · exact Or.inl ((turned_course hfault m beats).ready hfault)

/-- Time for the longest pause, and one poll before it and one after it, bring another item. -/
theorem length_lt_of_gap {gap : Gap}
    (hgap : ∀ p ∈ parameters,
      1000 * p.intervalMicros.toNat + 999999 ≤ gap.elapsed.nanos) :
    ((start scope kind parameters closing).course m beats).items.length <
      ((start scope kind parameters closing).course m
        (beats ++ [.poll, .event gap, .poll])).items.length := by
  have hready := ready_or_pausing scope kind parameters closing m beats
  rw [course_append]
  generalize (start scope kind parameters closing).course m beats = c at hready ⊢
  refine Operation.length_lt_of_event ?_
  rcases hready with ⟨i, s', hturn⟩ | ⟨s', begun, p, hp, hbegun, hturn, hphase⟩
  · exact Or.inl ⟨i, s', c.world, by simp only [next, hturn]⟩
  · have hfired : Instant.fired (begun.later p.interval) (c.world.after gap).now = true := by
      apply Instant.fired_of_later
      have hlong : p.interval.nanos + 999999 ≤ gap.elapsed.nanos :=
        p.interval_nanos ▸ hgap p hp
      have hpast : begun.nanos ≤ c.world.now.nanos := hbegun
      show begun.nanos + p.interval.nanos + 999999 ≤ c.world.now.nanos + gap.elapsed.nanos
      omega
    obtain ⟨i, s'', hadvance, _⟩ :=
      advance_of_fired s' (g := .racing (.until (begun.later p.interval))) hfired
    have hturn' : s'.turn (c.world.after gap) = .ready (i, s'') := by
      simp only [turn, hphase]
      exact hadvance
    exact Or.inr ⟨s', c.world, by simp only [next, hturn],
      i, s'', c.world.after gap, by simp only [next, hturn']⟩

/-- **A stream of responses is a paced prefix of what was asked for**, whatever the schedule of
polls, signals and moves of the clock.  A request with a fault is refused with that fault, and
nothing else comes.  Any other gives the responses to the first parameters, each in its time
and in an untriggered scope.  When all have been given, the closing status or the plain end
follows.  When one is left, only the failure of a triggered scope can.  Time for the longest
pause brings another item, so a stream that is polled goes on to its end. -/
theorem output_is_paced_prefix :
    ((∃ st, RequestFault kind parameters st ∧
        Refused st ((start scope kind parameters closing).course m beats).items) ∨
      (Answerable kind parameters ∧ ∃ done left sent tail last,
        parameters = done ++ left ∧
        ((start scope kind parameters closing).course m beats).items = sent ++ tail ∧
        Sent scope m.now done sent last ∧ Ending scope closing left tail)) ∧
    ∀ gap : Gap, (∀ p ∈ parameters,
      1000 * p.intervalMicros.toNat + 999999 ≤ gap.elapsed.nanos) →
      ((start scope kind parameters closing).course m beats).items.length <
        ((start scope kind parameters closing).course m
          (beats ++ [.poll, .event gap, .poll])).items.length := by
  refine ⟨?_, fun gap hgap => length_lt_of_gap scope kind parameters closing m beats hgap⟩
  rcases answerable_or_fault kind parameters with hanswerable | ⟨st, hfault⟩
  · refine Or.inr ⟨hanswerable, ?_⟩
    have hunderway := underway_course scope closing hanswerable m beats
    generalize (start scope kind parameters closing).course m beats = c at hunderway ⊢
    cases hunderway with
    | live hsplit hsent hlast hphase =>
        exact ⟨_, _, _, [], _, hsplit, (List.append_nil _).symm, hsent, .ongoing _⟩
    | ended hsplit hsent htail hending hended =>
        exact ⟨_, _, _, _, _, hsplit, rfl, hsent, hending⟩
  · exact Or.inl ⟨st, hfault, (turned_course hfault m beats).1⟩

end Course

end OutputStream

end RpcConformance
