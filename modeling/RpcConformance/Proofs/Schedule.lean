import Mathlib.Data.List.Induction
import RpcConformance.Scope

/-!
# Schedules

Between two polls of an operation anything may happen to its world: signals are given, the
clock moves, requests arrive.  A schedule lists the polls and these events in the order in
which they come, so a statement about all schedules is one about all races.

An operation with one answer is *played* until it has answered; what a stream of items brings
is a *course*, with every item noted at the moment at which it came.  Both are folds of one
step over the schedule, so an invariant of the step is one of the whole.

## Main results

* `play_ready_iff` — an answer comes from one poll, before which everything waited.
* `run_eq_play` — the runner that moves the clock from timer to timer follows one schedule
  among all.
* `follow_induction` — what one beat keeps, a course keeps.
-/

namespace RpcConformance

/-- One beat of a schedule: a poll, or an event in the world. -/
inductive Beat (ε : Type)
  | poll
  | event (e : ε)
deriving DecidableEq

namespace Operation

variable {W σ α ε : Type}

/-! ## Operations with one answer -/

/-- What a beat makes of an operation.  One that has answered is over, and its world is kept
as it was at the answer. -/
def beat (op : Operation W σ α) (act : ε → W → W) : Turn σ α × W → Beat ε → Turn σ α × W
  | (.ready a, w), _ => (.ready a, w)
  | (.waiting s, w), .event e => (.waiting s, act e w)
  | (.waiting s, w), .poll => op.turn s w

/-- Follows a schedule up to the answer. -/
def play (op : Operation W σ α) (act : ε → W → W) (s : σ) (w : W) (beats : List (Beat ε)) :
    Turn σ α × W :=
  beats.foldl (op.beat act) (.waiting s, w)

section Play

variable {op : Operation W σ α} {act : ε → W → W} {s s' : σ} {w w' : W} {a : α}

theorem play_concat (beats : List (Beat ε)) (b : Beat ε) :
    op.play act s w (beats ++ [b]) = op.beat act (op.play act s w beats) b := by
  simp only [play, List.foldl_append, List.foldl_cons, List.foldl_nil]

theorem play_poll_cons (beats : List (Beat ε)) :
    op.play act s w (.poll :: beats) = beats.foldl (op.beat act) (op.turn s w) := rfl

/-- Nothing follows an answer. -/
theorem foldl_beat_ready (beats : List (Beat ε)) :
    beats.foldl (op.beat act) (.ready a, w) = (.ready a, w) := by
  induction beats with
  | nil => rfl
  | cons b rest ih => exact ih

theorem play_append_of_waiting {beats : List (Beat ε)} (rest : List (Beat ε))
    (h : op.play act s w beats = (.waiting s', w')) :
    op.play act s w (beats ++ rest) = op.play act s' w' rest := by
  rw [play, List.foldl_append]
  change rest.foldl (op.beat act) (op.play act s w beats) = _
  rw [h]
  rfl

/-- A poll that answers settles the play, whatever the schedule holds after it. -/
theorem play_of_turn_ready {beats : List (Beat ε)} (rest : List (Beat ε)) {w₁ : W}
    (hplay : op.play act s w beats = (.waiting s', w₁))
    (hturn : op.turn s' w₁ = (.ready a, w')) :
    op.play act s w (beats ++ .poll :: rest) = (.ready a, w') := by
  rw [play_append_of_waiting _ hplay, play_poll_cons, hturn, foldl_beat_ready]

/-- An answer comes from one poll, and up to that poll the operation has waited. -/
theorem play_ready_iff {beats : List (Beat ε)} :
    op.play act s w beats = (.ready a, w') ↔
      ∃ before rest s₁ w₁, beats = before ++ .poll :: rest ∧
        op.play act s w before = (.waiting s₁, w₁) ∧ op.turn s₁ w₁ = (.ready a, w') := by
  constructor
  · intro h
    induction beats using List.reverseRecOn with
    | nil => cases h
    | append_singleton beats b ih =>
        rw [play_concat] at h
        cases hbefore : op.play act s w beats with
        | mk t w₁ =>
            cases t with
            | ready a₁ =>
                rw [hbefore] at h
                obtain ⟨before, rest, s₂, w₂, hbeats, hplay, hturn⟩ :=
                  ih (hbefore.trans h)
                exact ⟨before, rest ++ [b], s₂, w₂, by simp [hbeats], hplay, hturn⟩
            | waiting s₁ =>
                cases b with
                | event e => rw [hbefore] at h; cases h
                | poll => exact ⟨beats, [], s₁, w₁, rfl, hbefore, by rw [hbefore] at h; exact h⟩
  · rintro ⟨before, rest, s₁, w₁, rfl, hplay, hturn⟩
    exact play_of_turn_ready rest hplay hturn

/-- What every poll that waits and every event keeps is kept while the operation waits. -/
theorem play_waiting_induction {P : W → Prop}
    (poll : ∀ st v st' v', op.turn st v = (.waiting st', v') → P v → P v')
    (event : ∀ e v, P v → P (act e v)) (start : P w) {beats : List (Beat ε)}
    (h : op.play act s w beats = (.waiting s', w')) : P w' := by
  induction beats using List.reverseRecOn generalizing s' w' with
  | nil =>
      cases h
      exact start
  | append_singleton beats b ih =>
      rw [play_concat] at h
      rcases hbefore : op.play act s w beats with ⟨a | s₁, w₁⟩ <;> rw [hbefore] at h
      · cases h
      · cases b with
        | event e =>
            cases h
            exact event e w₁ (ih hbefore)
        | poll => exact poll s₁ w₁ s' w' h (ih hbefore)

end Play

/-! ## The runner follows a schedule -/

/-- What the runner does to a world between two polls: the clock only jumps forward. -/
inductive Tick
  | settle
  | jump (due : Instant)

/-- The effect of a tick. -/
def Tick.act [Scheduler W] : Tick → W → W
  | settle, w => Scheduler.settle w
  | jump due, w => Scheduler.moveTo ((Timeline.moment w).now.jumpTo due) w

end Operation

/-- A turn as the end of a run: one that waits is unfinished. -/
def Turn.outcome {σ α : Type} : Turn σ α → Outcome α
  | ready a => .answered a
  | waiting _ => .unfinished

namespace Operation

section Run

variable {W σ α : Type} [Scheduler W] (op : Operation W σ α) (limit : Option Instant)

theorem round_eq_play (s : σ) (w : W) :
    ∃ beats, op.round limit s w = op.play Tick.act s w beats := by
  rcases hturn : op.turn s w with ⟨t, w₁⟩
  cases t with
  | ready a =>
      refine ⟨[.poll], ?_⟩
      simp only [round, hturn, play_poll_cons, List.foldl_nil]
  | waiting s₁ =>
      by_cases hover : isOver limit w₁ = true
      · refine ⟨[.poll], ?_⟩
        simp only [round, hturn, hover, if_true, play_poll_cons, List.foldl_nil]
      · refine ⟨[.poll, .event .settle, .poll], ?_⟩
        simp only [round, hturn, hover, play_poll_cons]
        rfl

/-- A jump of the clock is one tick, or none. -/
theorem jump_eq_play (s : σ) (w : W) :
    ∃ beats, op.play Tick.act s w beats = (.waiting s, (op.jump limit s w).2) := by
  have hstay : ∃ beats, op.play Tick.act s w beats = (.waiting s, w) := ⟨[], rfl⟩
  have hmove : ∀ due, ∃ beats, op.play Tick.act s w beats =
      (.waiting s, Scheduler.moveTo ((Timeline.moment w).now.jumpTo due) w) :=
    fun due => ⟨[.event (.jump due)], rfl⟩
  unfold jump
  dsimp only
  split
  · exact hstay
  · exact hmove _
  · exact hmove _
  · split
    · exact hstay
    · split
      · exact hmove _
      · exact hmove _

theorem wait_eq_play (fuel : Nat) (s : σ) (w : W) :
    ∃ beats, op.wait limit fuel s w =
      ((op.play Tick.act s w beats).1.outcome, (op.play Tick.act s w beats).2) := by
  induction fuel generalizing s w with
  | zero => exact ⟨[], rfl⟩
  | succ fuel ih =>
      obtain ⟨leap, hleap⟩ := op.jump_eq_play limit s w
      unfold wait
      rcases hjump : op.jump limit s w with ⟨goesOn, w₁⟩
      rw [hjump] at hleap
      cases goesOn with
      | false => exact ⟨leap, by rw [hleap]; rfl⟩
      | true =>
          obtain ⟨polls, hpolls⟩ := op.round_eq_play limit s w₁
          rw [← play_append_of_waiting polls hleap] at hpolls
          rcases hround : op.round limit s w₁ with ⟨t, w₂⟩
          rw [hround] at hpolls
          dsimp only
          rw [hround]
          cases t with
          | ready a => exact ⟨leap ++ polls, by rw [← hpolls]; rfl⟩
          | waiting s₂ =>
              obtain ⟨later, hlater⟩ := ih s₂ w₂
              refine ⟨(leap ++ polls) ++ later, ?_⟩
              rw [play_append_of_waiting later hpolls.symm]
              exact hlater

/-- **The runner follows a schedule.**  Its answer, or that it ended without one, is what a
schedule of polls, settlings and jumps of the clock leads to; so what holds of an operation
under every schedule holds of each run. -/
theorem run_eq_play (own : Nat) (s : σ) (w : W) :
    ∃ beats, op.run limit own s w =
      ((op.play Tick.act s w beats).1.outcome, (op.play Tick.act s w beats).2) := by
  obtain ⟨polls, hpolls⟩ := op.round_eq_play limit s w
  unfold run
  rcases hround : op.round limit s w with ⟨t, w₁⟩
  rw [hround] at hpolls
  cases t with
  | ready a => exact ⟨polls, by rw [← hpolls]; rfl⟩
  | waiting s₁ =>
      obtain ⟨later, hlater⟩ := op.wait_eq_play limit (own + Scheduler.timers w₁) s₁ w₁
      refine ⟨polls ++ later, ?_⟩
      rw [play_append_of_waiting later hpolls.symm]
      exact hlater

/-- A run that answers follows a schedule up to the answer. -/
theorem run_answered {own : Nat} {s : σ} {w w' : W} {a : α}
    (h : op.run limit own s w = (.answered a, w')) :
    ∃ beats, op.play Tick.act s w beats = (.ready a, w') := by
  obtain ⟨beats, hplay⟩ := op.run_eq_play limit own s w
  refine ⟨beats, ?_⟩
  rw [h] at hplay
  rcases hturns : op.play Tick.act s w beats with ⟨a' | s', w₁⟩ <;> rw [hturns] at hplay <;>
    cases hplay
  rfl

/-- A run without an answer follows a schedule in which the operation waits to the end. -/
theorem run_unfinished {own : Nat} {s : σ} {w w' : W}
    (h : op.run limit own s w = (.unfinished, w')) :
    ∃ beats s', op.play Tick.act s w beats = (.waiting s', w') := by
  obtain ⟨beats, hplay⟩ := op.run_eq_play limit own s w
  refine ⟨beats, ?_⟩
  rw [h] at hplay
  rcases hturns : op.play Tick.act s w beats with ⟨a | s', w₁⟩ <;> rw [hturns] at hplay <;>
    cases hplay
  exact ⟨s', rfl⟩

end Run

end Operation

/-! ## Streams of items -/

/-- What a schedule has brought so far: the items, each with the moment at which it came, the
state of the stream, and the world. -/
structure Course (W σ ι : Type) where
  items : List (ι × Moment)
  state : σ
  world : W

namespace Operation

variable {W σ ι ε : Type} [Timeline W]

/-- What a beat adds to a course. -/
def courseBeat (next : Operation W σ (ι × σ)) (act : ε → W → W) (c : Course W σ ι) :
    Beat ε → Course W σ ι
  | .event e => { c with world := act e c.world }
  | .poll =>
    match next.turn c.state c.world with
    | (.waiting s, w) => { c with state := s, world := w }
    | (.ready (i, s), w) => ⟨c.items ++ [(i, Timeline.moment w)], s, w⟩

/-- Reads a stream as a schedule says. -/
def follow (next : Operation W σ (ι × σ)) (act : ε → W → W) (s : σ) (w : W)
    (beats : List (Beat ε)) : Course W σ ι :=
  beats.foldl (next.courseBeat act) ⟨[], s, w⟩

variable {next : Operation W σ (ι × σ)} {act : ε → W → W} {s : σ} {w : W}

theorem follow_concat (beats : List (Beat ε)) (b : Beat ε) :
    next.follow act s w (beats ++ [b]) = next.courseBeat act (next.follow act s w beats) b := by
  simp only [follow, List.foldl_append, List.foldl_cons, List.foldl_nil]

theorem follow_append (beats more : List (Beat ε)) :
    next.follow act s w (beats ++ more) =
      more.foldl (next.courseBeat act) (next.follow act s w beats) := by
  rw [follow, List.foldl_append, follow]

/-- A beat adds at most one item, at the end. -/
theorem items_courseBeat (c : Course W σ ι) (b : Beat ε) :
    c.items <+: (next.courseBeat act c b).items := by
  cases b with
  | event e => exact List.prefix_refl _
  | poll =>
      simp only [courseBeat]
      rcases next.turn c.state c.world with ⟨⟨i, s⟩ | s, w⟩
      · exact List.prefix_append _ _
      · exact List.prefix_refl _

/-- What holds at the start and is kept by every beat holds of every course. -/
theorem follow_induction {P : List (Beat ε) → Course W σ ι → Prop}
    (start : P [] ⟨[], s, w⟩)
    (keep : ∀ beats b c, P beats c → P (beats ++ [b]) (next.courseBeat act c b))
    (beats : List (Beat ε)) : P beats (next.follow act s w beats) := by
  induction beats using List.reverseRecOn with
  | nil => exact start
  | append_singleton beats b ih =>
      rw [follow_concat]
      exact keep beats b _ ih

/-- The same for an invariant that is kept in some worlds only, where a world that is none of
them is followed by none. -/
theorem follow_induction_within {P : List (Beat ε) → Course W σ ι → Prop} {Q : W → Prop}
    (start : P [] ⟨[], s, w⟩) (back : ∀ c b, Q (next.courseBeat act c b).world → Q c.world)
    (keep : ∀ beats b c, Q (next.courseBeat act c b).world → P beats c →
      P (beats ++ [b]) (next.courseBeat act c b))
    (beats : List (Beat ε)) (hwithin : Q (next.follow act s w beats).world) :
    P beats (next.follow act s w beats) := by
  induction beats using List.reverseRecOn with
  | nil => exact start
  | append_singleton beats b ih =>
      rw [follow_concat] at hwithin ⊢
      exact keep beats b _ hwithin (ih (back _ b hwithin))

/-- A poll that is ready adds an item. -/
theorem length_lt_of_ready (act : ε → W → W) {c : Course W σ ι} {i : ι} {s' : σ} {w' : W}
    (h : next.turn c.state c.world = (.ready (i, s'), w')) :
    c.items.length < (next.courseBeat act c .poll).items.length := by
  simp only [courseBeat, h, List.length_append, List.length_singleton]
  omega

/-- Two polls with an event between them bring an item when the first or the second of them is
ready. -/
theorem length_lt_of_event {c : Course W σ ι} {e : ε}
    (h : (∃ i s' w', next.turn c.state c.world = (.ready (i, s'), w')) ∨
      ∃ s' w', next.turn c.state c.world = (.waiting s', w') ∧
        ∃ i s'' w'', next.turn s' (act e w') = (.ready (i, s''), w'')) :
    c.items.length <
      ([.poll, .event e, .poll].foldl (next.courseBeat act) c).items.length := by
  simp only [List.foldl_cons, List.foldl_nil]
  rcases h with ⟨i, s', w', hturn⟩ | ⟨s', w', hturn, i, s'', w'', hturn'⟩
  · refine Nat.lt_of_lt_of_le (length_lt_of_ready act hturn) ?_
    exact (items_courseBeat
      (next.courseBeat act (next.courseBeat act c .poll) (.event e)) .poll).length_le
  · simp only [courseBeat, hturn, hturn', List.length_append, List.length_singleton]
    omega

end Operation

/-! ## The passing of time -/

theorem Instant.le_refl (t : Instant) : t ≤ t := Nat.le_refl t.nanos

theorem Instant.le_trans {a b c : Instant} (hab : a ≤ b) (hbc : b ≤ c) : a ≤ c :=
  Nat.le_trans (show a.nanos ≤ b.nanos from hab) hbc

/-- A timer that has fired stays fired. -/
theorem Instant.fired_mono {due now later : Instant} (hlater : now ≤ later)
    (h : Instant.fired due now = true) : Instant.fired due later = true := by
  rw [Instant.fired_iff] at h ⊢
  have hpast : now.nanos ≤ later.nanos := hlater
  exact Nat.le_trans h (Nat.mul_le_mul_right _ (Nat.div_le_div_right hpast))

theorem Instant.le_later (t : Instant) (d : Duration) : t ≤ t.later d :=
  Nat.le_add_right t.nanos d.nanos

theorem Instant.le_jumpTo (now due : Instant) : now ≤ now.jumpTo due :=
  Nat.le_add_right now.nanos ((due.tick - now.millis) * 1000000)

/-- The clock does not go back, and signals are not taken back. -/
structure Moment.Precedes (m m' : Moment) : Prop where
  now : m.now ≤ m'.now
  signals : ∀ t, m.isCancelled t = true → m'.isCancelled t = true

theorem Moment.Precedes.refl (m : Moment) : m.Precedes m :=
  ⟨Instant.le_refl m.now, fun _ h => h⟩

theorem Moment.Precedes.trans {a b c : Moment} (hab : a.Precedes b) (hbc : b.Precedes c) :
    a.Precedes c :=
  ⟨Instant.le_trans hab.now hbc.now, fun t h => hbc.signals t (hab.signals t h)⟩

theorem Moment.precedes_of_le {m : Moment} {t : Instant} (h : m.now ≤ t) :
    m.Precedes { m with now := t } :=
  ⟨h, fun _ hsignal => hsignal⟩

/-- What a scope can notice between two polls: time passes, and signals are given. -/
structure Gap where
  elapsed : Duration
  signals : List Token := []

namespace Moment

/-- The moment after a gap. -/
def after (m : Moment) (g : Gap) : Moment :=
  ⟨m.now.later g.elapsed, g.signals ++ m.cancelled⟩

theorem now_le_after (m : Moment) (g : Gap) : m.now ≤ (m.after g).now :=
  m.now.le_later g.elapsed

theorem precedes_after (m : Moment) (g : Gap) : m.Precedes (m.after g) := by
  refine ⟨now_le_after m g, ?_⟩
  intro t h
  simp only [isCancelled, after, List.contains_iff_mem, List.mem_append] at h ⊢
  exact Or.inr h

end Moment

end RpcConformance
