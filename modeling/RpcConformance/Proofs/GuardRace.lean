import RpcConformance.Proofs.Schedule

/-!
# The race between an operation and its scope

A guarded operation, its scope's signal and its scope's deadline race, and whoever is first by
the fixed order of a poll decides: the signal, the deadline, the operation.  The order is
stated once, as what a guard *sees* of its scope when a turn begins; every fact about a race
follows from the two lemmas on a turn that sees something and on one that sees nothing.

The instant counts exactly where the scope itself is asked, before the first turn and after a
failure, while in between the deadline's timer counts, which is up to a millisecond later.  A
guard can therefore answer with a success that ended after the deadline, and never with a
failure that hides it.

## Main results

* `play_guard` — up to its end a guarded operation is polled as it would be by itself.
* `guard_decides_race` — who wins, for every operation and every schedule.
-/

namespace RpcConformance.Scope

variable {W σ α ε : Type} [Timeline W]

/-! ## What a triggered scope reports -/

theorem failure?_of_isCancelled {s : Scope} {m : Moment} (h : s.isCancelled m = true) :
    s.failure? m = some cancelledStatus := by
  rw [failure?, if_pos h]

theorem failure?_of_isExpired {s : Scope} {m : Moment} (hc : s.isCancelled m = false)
    (he : s.isExpired m = true) : s.failure? m = some expiredStatus := by
  rw [failure?, hc, he]
  rfl

theorem failure?_eq_none_iff {s : Scope} {m : Moment} :
    s.failure? m = none ↔ s.isCancelled m = false ∧ s.isExpired m = false := by
  unfold failure?
  cases s.isCancelled m <;> cases s.isExpired m <;> simp

/-- The timer is late, if anything. -/
theorem isExpired_of_timerFired {s : Scope} {m : Moment} (h : s.timerFired m = true) :
    s.isExpired m = true := by
  unfold timerFired at h
  unfold isExpired
  cases hd : s.deadline with
  | none => rw [hd] at h; cases h
  | some d =>
      rw [hd] at h
      exact decide_eq_true (Instant.le_of_fired h)

/-! ## A triggered scope stays triggered -/

theorem untriggered_of_precedes {s : Scope} {m m' : Moment} (hlater : m.Precedes m')
    (h : s.failure? m' = none) : s.failure? m = none := by
  obtain ⟨hsignal, htime⟩ := failure?_eq_none_iff.mp h
  refine failure?_eq_none_iff.mpr ⟨?_, ?_⟩
  · cases hc : s.isCancelled m with
    | false => rfl
    | true => rw [isCancelled, hlater.signals s.token hc] at hsignal; cases hsignal
  · unfold isExpired at htime ⊢
    cases hd : s.deadline with
    | none => rfl
    | some d =>
        rw [hd] at htime
        have hnot := of_decide_eq_false htime
        exact decide_eq_false fun hd => hnot (Instant.le_trans hd hlater.now)

/-- The signal has been given, or the deadline's timer has fired. -/
def Noticed (s : Scope) (m : Moment) : Prop := s.isCancelled m = true ∨ s.timerFired m = true

theorem Noticed.mono {s : Scope} {m m' : Moment} (h : s.Noticed m) (hlater : m.Precedes m') :
    s.Noticed m' := by
  rcases h with hsignal | htimer
  · exact Or.inl (hlater.signals s.token hsignal)
  · refine Or.inr ?_
    unfold timerFired at htimer ⊢
    cases hd : s.deadline with
    | none => rw [hd] at htimer; cases htimer
    | some d =>
        rw [hd] at htimer
        exact Instant.fired_mono hlater.now htimer

/-- What is noticed is there. -/
theorem Noticed.triggered {s : Scope} {m : Moment} (h : s.Noticed m) : s.failure? m ≠ none := by
  intro hnone
  obtain ⟨hc, he⟩ := failure?_eq_none_iff.mp hnone
  rcases h with hsignal | htimer
  · rw [hc] at hsignal
    cases hsignal
  · rw [isExpired_of_timerFired htimer] at he
    cases he

/-! ## What a guard reports -/

/-- A failure in a triggered scope has the scope's code, whoever failed. -/
theorem overrule_code {s : Scope} {m : Moment} {own : Status} (st : Status)
    (h : s.failure? m = some own) : (s.overrule m st).code = own.code := by
  unfold overrule
  rw [h]
  dsimp only
  split
  · rename_i hcode
    exact hcode.symm
  · rfl

theorem overrule_of_untriggered {s : Scope} {m : Moment} (st : Status)
    (h : s.failure? m = none) : s.overrule m st = st := by
  rw [overrule, h]

/-! ## One turn -/

/-- The state of the operation inside a guard. -/
def Guarded.inner : Guarded σ → σ
  | .fresh state => state
  | .racing state => state

/-- What a guard sees of its scope as a turn begins.  The exact instant counts before the first
turn, and the deadline's timer before every other one. -/
def seen? (s : Scope) (g : Guarded σ) (m : Moment) : Option Status :=
  match g with
  | .fresh _ => s.failure? m
  | .racing _ =>
    if s.isCancelled m then some cancelledStatus
    else if s.timerFired m then some expiredStatus
    else none

/-- A guard sees nothing but what is there. -/
theorem failure?_of_seen {s : Scope} {g : Guarded σ} {m : Moment} {st : Status}
    (h : s.seen? g m = some st) : s.failure? m = some st := by
  cases g with
  | fresh state => exact h
  | racing state =>
      unfold seen? at h
      dsimp only at h
      split at h
      · rename_i hc
        rw [failure?_of_isCancelled hc]
        exact h
      · rename_i hc
        split at h
        · rename_i ht
          rw [failure?_of_isExpired (by simpa using hc) (isExpired_of_timerFired ht)]
          exact h
        · cases h

/-- Neither the signal nor the timer is there when a guard sees nothing. -/
theorem not_fired_of_unseen {s : Scope} {g : Guarded σ} {m : Moment}
    (h : s.seen? g m = none) : s.isCancelled m = false ∧ s.timerFired m = false := by
  cases g with
  | fresh state =>
      obtain ⟨hc, he⟩ := failure?_eq_none_iff.mp h
      refine ⟨hc, ?_⟩
      cases ht : s.timerFired m with
      | false => rfl
      | true => rw [isExpired_of_timerFired ht] at he; cases he
  | racing state =>
      unfold seen? at h
      dsimp only at h
      split at h
      · cases h
      · rename_i hc
        split at h
        · cases h
        · rename_i ht
          exact ⟨by simpa using hc, by simpa using ht⟩

/-- The signal and the timer are seen before every turn. -/
theorem seen?_of_fired {s : Scope} {m : Moment} (g : Guarded σ) (h : s.Noticed m) :
    s.seen? g m = some (if s.isCancelled m then cancelledStatus else expiredStatus) := by
  by_cases hc : s.isCancelled m = true
  · cases g with
    | fresh state =>
        rw [if_pos hc]
        exact failure?_of_isCancelled hc
    | racing state =>
        unfold seen?
        rw [if_pos hc, if_pos hc]
  · have ht : s.timerFired m = true := h.resolve_left hc
    cases g with
    | fresh state =>
        rw [if_neg hc]
        exact failure?_of_isExpired (by simpa using hc) (isExpired_of_timerFired ht)
    | racing state =>
        unfold seen?
        rw [if_neg hc, if_neg hc, if_pos ht]

/-- In a scope that has not been triggered a guard sees nothing. -/
theorem unseen_of_untriggered {s : Scope} {m : Moment} (g : Guarded σ)
    (h : s.failure? m = none) : s.seen? g m = none := by
  cases hseen : s.seen? g m with
  | none => rfl
  | some st => rw [failure?_of_seen hseen] at h; cases h

/-- How a guard passes on what a turn of its operation has given. -/
def passOn (s : Scope) : Turn σ (Except Status α) × W → Turn (Guarded σ) (Except Status α) × W
  | (.waiting state, w) => (.waiting (.racing state), w)
  | (.ready (.ok a), w) => (.ready (.ok a), w)
  | (.ready (.error st), w) => (.ready (.error (s.overrule (Timeline.moment w) st)), w)

variable (s : Scope) (op : Operation W σ (Except Status α))

/-- A guard that sees its scope triggered fails, and leaves the operation and the world alone. -/
theorem guard_turn_of_seen {g : Guarded σ} {w : W} {st : Status}
    (h : s.seen? g (Timeline.moment w) = some st) :
    (s.guard op).turn g w = (.ready (.error st), w) := by
  cases g with
  | fresh state =>
      unfold seen? at h
      simp only [guard, h]
  | racing state =>
      unfold seen? at h
      dsimp only at h
      by_cases hc : s.isCancelled (Timeline.moment w) = true
      · rw [if_pos hc] at h
        cases h
        simp only [guard, race, hc, if_true]
      · rw [if_neg hc] at h
        by_cases ht : s.timerFired (Timeline.moment w) = true
        · rw [if_pos ht] at h
          cases h
          simp only [guard, race, hc, ht, if_true]
          rfl
        · rw [if_neg ht] at h
          cases h

/-- A guard that sees nothing takes a turn of its operation. -/
theorem guard_turn_of_unseen {g : Guarded σ} {w : W}
    (h : s.seen? g (Timeline.moment w) = none) :
    (s.guard op).turn g w = s.passOn (op.turn g.inner w) := by
  obtain ⟨hc, ht⟩ := not_fired_of_unseen h
  have hrace : ∀ state, s.race op state w = s.passOn (op.turn state w) := by
    intro state
    simp only [race, hc, ht]
    rcases op.turn state w with ⟨_ | _, w₁⟩
    · rename_i r
      cases r <;> rfl
    · rfl
  cases g with
  | fresh state =>
      unfold seen? at h
      simp only [guard, h]
      exact hrace state
  | racing state => exact hrace state

/-- A guard waits only for an operation that waits, in a scope that it sees untriggered. -/
theorem guard_turn_waiting {g g' : Guarded σ} {w w' : W}
    (h : (s.guard op).turn g w = (.waiting g', w')) :
    s.seen? g (Timeline.moment w) = none ∧ op.turn g.inner w = (.waiting g'.inner, w') ∧
      g' = .racing g'.inner := by
  cases hseen : s.seen? g (Timeline.moment w) with
  | some st =>
      rw [guard_turn_of_seen s op hseen] at h
      cases h
  | none =>
      rw [guard_turn_of_unseen s op hseen] at h
      rcases hturn : op.turn g.inner w with ⟨r | state, w₁⟩
      · rw [hturn] at h
        rcases r with st | a <;> cases h
      · rw [hturn] at h
        cases h
        exact ⟨rfl, rfl, rfl⟩

/-- A guard answers with a success of its operation, and only where it sees nothing. -/
theorem guard_turn_ok {g : Guarded σ} {w w' : W} {a : α}
    (h : (s.guard op).turn g w = (.ready (.ok a), w')) :
    s.seen? g (Timeline.moment w) = none ∧ op.turn g.inner w = (.ready (.ok a), w') := by
  cases hseen : s.seen? g (Timeline.moment w) with
  | some st =>
      rw [guard_turn_of_seen s op hseen] at h
      cases h
  | none =>
      rw [guard_turn_of_unseen s op hseen] at h
      rcases hturn : op.turn g.inner w with ⟨r | state, w₁⟩
      · rw [hturn] at h
        rcases r with st | a₁ <;> cases h
        exact ⟨rfl, rfl⟩
      · rw [hturn] at h
        cases h

/-- A guard fails with what it sees, or with a failure of its operation that it may overrule. -/
theorem guard_turn_error {g : Guarded σ} {w w' : W} {st : Status}
    (h : (s.guard op).turn g w = (.ready (.error st), w')) :
    (s.failure? (Timeline.moment w') = some st ∧ w' = w) ∨
      ∃ own, op.turn g.inner w = (.ready (.error own), w') ∧
        st = s.overrule (Timeline.moment w') own := by
  cases hseen : s.seen? g (Timeline.moment w) with
  | some seen =>
      rw [guard_turn_of_seen s op hseen] at h
      cases h
      exact Or.inl ⟨failure?_of_seen hseen, rfl⟩
  | none =>
      rw [guard_turn_of_unseen s op hseen] at h
      rcases hturn : op.turn g.inner w with ⟨r | state, w₁⟩
      · rw [hturn] at h
        rcases r with own | a <;> cases h
        exact Or.inr ⟨own, rfl, rfl⟩
      · rw [hturn] at h
        cases h

/-- A turn of a guard leaves the world alone, or as its operation leaves it. -/
theorem guard_turn_world (g : Guarded σ) (w : W) :
    ((s.guard op).turn g w).2 = w ∨ ((s.guard op).turn g w).2 = (op.turn g.inner w).2 := by
  cases hseen : s.seen? g (Timeline.moment w) with
  | some st =>
      rw [guard_turn_of_seen s op hseen]
      exact Or.inl rfl
  | none =>
      rw [guard_turn_of_unseen s op hseen]
      rcases op.turn g.inner w with ⟨⟨_ | _⟩ | _, _⟩ <;> exact Or.inr rfl

/-! ## Whole races -/

variable (act : ε → W → W)

/-- **Up to its end a guarded operation is polled as it would be by itself.**  While the guard
waits, its operation waits in the same state of the same world. -/
theorem play_guard {state : σ} {w w' : W} {g : Guarded σ} {beats : List (Beat ε)}
    (h : (s.guard op).play act (.fresh state) w beats = (.waiting g, w')) :
    op.play act state w beats = (.waiting g.inner, w') := by
  induction beats using List.reverseRecOn generalizing g w' with
  | nil =>
      cases h
      rfl
  | append_singleton beats b ih =>
      rw [Operation.play_concat] at h ⊢
      rcases hbefore : (s.guard op).play act (.fresh state) w beats with ⟨r | g₁, w₁⟩
      · rw [hbefore] at h
        cases h
      · rw [ih hbefore]
        rw [hbefore] at h
        cases b with
        | event e =>
            cases h
            rfl
        | poll => exact (guard_turn_waiting s op h).2.1

/-- A failure reports the scope where the scope has been triggered, and is the operation's own
where it has not. -/
theorem play_guard_error {state : σ} {w w' : W} {st : Status} {beats : List (Beat ε)}
    (h : (s.guard op).play act (.fresh state) w beats = (.ready (.error st), w')) :
    (∀ own, s.failure? (Timeline.moment w') = some own → st.code = own.code) ∧
      (s.failure? (Timeline.moment w') = none →
        op.play act state w beats = (.ready (.error st), w')) := by
  obtain ⟨before, rest, g, w₁, rfl, hplay, hturn⟩ := Operation.play_ready_iff.mp h
  rcases guard_turn_error s op hturn with ⟨hseen, rfl⟩ | ⟨own, hown, rfl⟩
  · constructor
    · intro own' hown'
      rw [hseen] at hown'
      cases hown'
      rfl
    · intro hnone
      rw [hseen] at hnone
      cases hnone
  · constructor
    · intro own' hown'
      exact overrule_code own hown'
    · intro hnone
      rw [overrule_of_untriggered own hnone]
      exact Operation.play_of_turn_ready rest (play_guard s op act hplay) hown

/-- **Who wins a race.**  A scope that is triggered on entry refuses the operation, whose first
turn is never taken: the world is left as it was.  A failure has the code of a cancelled scope,
then that of an expired one, whatever the operation failed with, and in an untriggered scope it
is the operation's own failure, at the point of the schedule where the operation fails by
itself.  A success is the operation's own, on a turn that began with neither the signal given
nor the timer fired; such a success is kept, even where the turn itself triggers the scope.  A
guard that still waits is settled by the first poll that finds the signal or the timer. -/
theorem guard_decides_race (state : σ) (w : W) :
    (∀ own beats, s.failure? (Timeline.moment w) = some own →
      (s.guard op).play act (.fresh state) w (.poll :: beats) = (.ready (.error own), w)) ∧
    (∀ beats st w',
      (s.guard op).play act (.fresh state) w beats = (.ready (.error st), w') →
        (s.isCancelled (Timeline.moment w') = true → st.code = .cancelled) ∧
        (s.isCancelled (Timeline.moment w') = false →
          s.isExpired (Timeline.moment w') = true → st.code = .deadlineExceeded) ∧
        (s.isCancelled (Timeline.moment w') = false →
          s.isExpired (Timeline.moment w') = false →
            op.play act state w beats = (.ready (.error st), w'))) ∧
    (∀ beats a w',
      (s.guard op).play act (.fresh state) w beats = (.ready (.ok a), w') →
        ∃ before rest state' w₁, beats = before ++ .poll :: rest ∧
          op.play act state w before = (.waiting state', w₁) ∧
          s.isCancelled (Timeline.moment w₁) = false ∧
          s.timerFired (Timeline.moment w₁) = false ∧
          op.turn state' w₁ = (.ready (.ok a), w')) ∧
    (∀ before rest g w₁ a w',
      (s.guard op).play act (.fresh state) w before = (.waiting g, w₁) →
      s.seen? g (Timeline.moment w₁) = none →
      op.turn g.inner w₁ = (.ready (.ok a), w') →
        (s.guard op).play act (.fresh state) w (before ++ .poll :: rest)
          = (.ready (.ok a), w')) ∧
    (∀ before rest g w₁,
      (s.guard op).play act (.fresh state) w before = (.waiting g, w₁) →
      s.isCancelled (Timeline.moment w₁) = true ∨ s.timerFired (Timeline.moment w₁) = true →
        (s.guard op).play act (.fresh state) w (before ++ .poll :: rest)
          = (.ready (.error (if s.isCancelled (Timeline.moment w₁) then cancelledStatus
              else expiredStatus)), w₁)) := by
  refine ⟨?_, ?_, ?_, ?_, ?_⟩
  · intro own beats hown
    have hstart : (s.guard op).play act (.fresh state) w [] = (.waiting (.fresh state), w) := rfl
    exact Operation.play_of_turn_ready beats hstart (guard_turn_of_seen s op hown)
  · intro beats st w' h
    obtain ⟨hcode, hown⟩ := play_guard_error s op act h
    refine ⟨?_, ?_, ?_⟩
    · intro hc
      exact hcode _ (failure?_of_isCancelled hc)
    · intro hc he
      exact hcode _ (failure?_of_isExpired hc he)
    · intro hc he
      exact hown (failure?_eq_none_iff.mpr ⟨hc, he⟩)
  · intro beats a w' h
    obtain ⟨before, rest, g, w₁, hbeats, hplay, hturn⟩ := Operation.play_ready_iff.mp h
    obtain ⟨hseen, hop⟩ := guard_turn_ok s op hturn
    obtain ⟨hc, ht⟩ := not_fired_of_unseen hseen
    exact ⟨before, rest, g.inner, w₁, hbeats, play_guard s op act hplay, hc, ht, hop⟩
  · intro before rest g w₁ a w' hplay hseen hop
    apply Operation.play_of_turn_ready rest hplay
    rw [guard_turn_of_unseen s op hseen, hop]
    rfl
  · intro before rest g w₁ hplay hfired
    exact Operation.play_of_turn_ready rest hplay
      (guard_turn_of_seen s op (seen?_of_fired g hfired))

end RpcConformance.Scope
