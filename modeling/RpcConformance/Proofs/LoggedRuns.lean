import RpcConformance.Proofs.GuardRace
import RpcConformance.Scope.Board

/-!
# Runs with a log

What an operation has done shows in the world that it leaves behind, but not always who did it:
two scopes may share a signal, and the signal does not tell by which of them it was given.  So an
operation can be run with a log beside its world, to which each turn adds a note.  The log takes no
part in the run: without it, the run is the same.  For the steps that a guard runs on a board, the
log holds the scopes on which cancel is called.

## Main results

* `Operation.Shadows.run` — a run with a log is the run without it.
* `Board.signalled_guard` — a guard on a board gives the signals that its log names, and does
  nothing
  else but let time pass.
-/

namespace RpcConformance

/-- A world with a log beside it. -/
structure Logged (W ν : Type) where
  world : W
  log : List ν

section Logs

variable {W σ α β ν : Type}

instance [Timeline W] : Timeline (Logged W ν) := ⟨fun w => Timeline.moment w.world⟩

instance [Scheduler W] : Scheduler (Logged W ν) where
  settle w := { w with world := Scheduler.settle w.world }
  alarm w := Scheduler.alarm w.world
  timers w := Scheduler.timers w.world
  moveTo t w := { w with world := Scheduler.moveTo t w.world }

/-- A result without the log. -/
def Logged.forget (result : β × Logged W ν) : β × W := (result.1, result.2.world)

namespace Operation

/-- The operation with a log of its turns. -/
def logging (op : Operation W σ α) (note : σ → Turn σ α → List ν) :
    Operation (Logged W ν) σ α where
  turn st w :=
    let (t, world) := op.turn st w.world
    (t, ⟨world, w.log ++ note st t⟩)
  alarm st w := op.alarm st w.world

/-- A tick passes the log by. -/
theorem act_logged [Scheduler W] (t : Tick) (w : Logged W ν) :
    t.act w = ⟨t.act w.world, w.log⟩ := by
  cases t <;> rfl

/-- An operation beside whose world there is a log, which it does not look at. -/
structure Shadows (logged : Operation (Logged W ν) σ α) (op : Operation W σ α) : Prop where
  turn : ∀ st w, Logged.forget (logged.turn st w) = op.turn st w.world
  alarm : ∀ st w, logged.alarm st w = op.alarm st w.world

theorem shadows_logging (op : Operation W σ α) (note : σ → Turn σ α → List ν) :
    (op.logging note).Shadows op := ⟨fun _ _ => rfl, fun _ _ => rfl⟩

theorem Shadows.guard [Timeline W] {logged : Operation (Logged W ν) σ (Except Status α)}
    {op : Operation W σ (Except Status α)} (h : logged.Shadows op) (s : Scope) :
    (s.guard logged).Shadows (s.guard op) where
  turn g w := by
    cases hseen : s.seen? g (Timeline.moment w.world) with
    | some own =>
        rw [Scope.guard_turn_of_seen s op hseen, Scope.guard_turn_of_seen s logged hseen]
        rfl
    | none =>
        rw [Scope.guard_turn_of_unseen s op hseen, Scope.guard_turn_of_unseen s logged hseen,
          ← h.turn g.inner w]
        rcases logged.turn g.inner w with ⟨(own | a) | st, w'⟩ <;> rfl
  alarm g w := by
    cases g with
    | fresh st => rfl
    | racing st =>
        simp only [Scope.guard, h.alarm]
        rfl

variable [Scheduler W] {logged : Operation (Logged W ν) σ α} {op : Operation W σ α}

theorem Shadows.round (h : logged.Shadows op) (limit : Option Instant) (st : σ)
    (w : Logged W ν) :
    Logged.forget (logged.round limit st w) = op.round limit st w.world := by
  have hfirst := h.turn st w
  rcases hturn : logged.turn st w with ⟨a | st', w'⟩
  · rw [hturn] at hfirst
    simp only [Operation.round, hturn, ← hfirst]
    rfl
  · rw [hturn] at hfirst
    simp only [Operation.round, hturn, ← hfirst, Logged.forget]
    have hover : isOver limit w' = isOver limit w'.world := rfl
    rw [hover]
    split
    · rfl
    · exact h.turn st' (Scheduler.settle w')

theorem Shadows.jump (h : logged.Shadows op) (limit : Option Instant) (st : σ)
    (w : Logged W ν) : Logged.forget (logged.jump limit st w) = op.jump limit st w.world := by
  have halarm : Scheduler.alarm w = Scheduler.alarm w.world := rfl
  have hnow : (Timeline.moment w).now = (Timeline.moment w.world).now := rfl
  simp only [Operation.jump, h.alarm, halarm, hnow]
  split
  · rfl
  · rfl
  · rfl
  · split
    · rfl
    · split <;> rfl

theorem Shadows.wait (h : logged.Shadows op) (limit : Option Instant) (fuel : Nat) (st : σ)
    (w : Logged W ν) :
    Logged.forget (logged.wait limit fuel st w) = op.wait limit fuel st w.world := by
  induction fuel generalizing st w with
  | zero => rfl
  | succ fuel ih =>
      have hjump := h.jump limit st w
      rcases hjumped : logged.jump limit st w with ⟨_ | _, w₁⟩
      · rw [hjumped] at hjump
        simp only [Operation.wait, hjumped, ← hjump]
        rfl
      · rw [hjumped] at hjump
        have hround := h.round limit st w₁
        simp only [Operation.wait, hjumped, ← hjump, Logged.forget]
        rcases hrounded : logged.round limit st w₁ with ⟨a | st', w₂⟩
        · rw [hrounded] at hround
          simp only [← hround]
          rfl
        · rw [hrounded] at hround
          simp only [← hround]
          exact ih st' w₂

/-- **A run with a log is the run without it.** -/
theorem Shadows.run (h : logged.Shadows op) (limit : Option Instant) (own : Nat) (st : σ)
    (w : Logged W ν) :
    Logged.forget (logged.run limit own st w) = op.run limit own st w.world := by
  have hround := h.round limit st w
  rcases hrounded : logged.round limit st w with ⟨a | st', w₁⟩
  · rw [hrounded] at hround
    simp only [Operation.run, hrounded, ← hround]
    rfl
  · rw [hrounded] at hround
    simp only [Operation.run, hrounded, ← hround]
    exact h.wait limit _ st' w₁

/-- What every turn and every tick keeps is kept by a run. -/
theorem run_induction {op : Operation W σ α} {P : W → Prop}
    (turn : ∀ st w, P w → P (op.turn st w).2) (tick : ∀ (t : Tick) w, P w → P (t.act w))
    (limit : Option Instant) (own : Nat) (st : σ) {w : W} (start : P w) :
    P (op.run limit own st w).2 := by
  obtain ⟨beats, hrun⟩ := op.run_eq_play limit own st w
  rw [hrun]
  clear hrun
  show P (op.play Tick.act st w beats).2
  induction beats using List.reverseRecOn with
  | nil => exact start
  | append_singleton beats b ih =>
      rw [play_concat]
      rcases hbefore : op.play Tick.act st w beats with ⟨a | st', w'⟩ <;> rw [hbefore] at ih
      · exact ih
      · cases b with
        | event t => exact tick t w' ih
        | poll => exact turn st' w' ih

end Operation

end Logs

/-! ## Sleeping -/

section Sleeping

variable {W : Type} [Timeline W]

theorem Scope.pause_turn_world (p : Pause) (w : W) : (Scope.pause.turn p w).2 = w := by
  have hworld : (Pause.operation.turn p w).2 = w := rfl
  simp only [Scope.pause]
  split <;> rename_i hturn <;> rw [hturn] at hworld <;> exact hworld

/-- A scope that sleeps leaves the world alone. -/
theorem Scope.sleep_turn_world (s : Scope) (g : Guarded Pause) (w : W) :
    (s.sleep.turn g w).2 = w := by
  have hworld : ((s.guard Scope.pause).turn g w).2 = w := by
    rcases Scope.guard_turn_world s Scope.pause g w with hsame | hturn
    · exact hsame
    · rw [hturn, Scope.pause_turn_world]
  simp only [Scope.sleep]
  split <;> rename_i hturn <;> rw [hturn] at hworld <;> exact hworld

end Sleeping

/-! ## Steps on a board -/

/-- What may become of a board without a new scope: time passes, and the signals of scopes with some
numbers are given. -/
structure Board.Signalled (b : Board) (numbers : List Nat) (b' : Board) : Prop where
  scopes : b'.scopes = b.scopes
  nextToken : b'.nextToken = b.nextToken
  now : b.moment.now ≤ b'.moment.now
  signals : ∀ t, b'.moment.isCancelled t = true ↔ b.moment.isCancelled t = true ∨
    ∃ n ∈ numbers, ∃ s, b.scopes[n]? = some s ∧ s.token = t

namespace Board

variable {b b₁ b₂ : Board} {numbers more : List Nat}

theorem Signalled.refl (b : Board) : b.Signalled [] b where
  scopes := rfl
  nextToken := rfl
  now := Instant.le_refl _
  signals t := by simp

theorem Signalled.trans (h : b.Signalled numbers b₁) (h' : b₁.Signalled more b₂) :
    b.Signalled (numbers ++ more) b₂ where
  scopes := h'.scopes.trans h.scopes
  nextToken := h'.nextToken.trans h.nextToken
  now := Instant.le_trans h.now h'.now
  signals t := by
    rw [h'.signals, h.signals, h.scopes, or_assoc]
    simp only [List.mem_append, or_and_right, exists_or]

theorem signalled_cancel (b : Board) (n : Nat) : b.Signalled [n] (b.cancel n) := by
  cases hscope : b.scopes[n]? with
  | none =>
      have hsame : b.cancel n = b := by rw [cancel, hscope]
      rw [hsame]
      exact ⟨rfl, rfl, Instant.le_refl _, fun t => by simp [hscope]⟩
  | some s =>
      have hgiven : b.cancel n = { b with moment := b.moment.cancel s.token } := by
        rw [cancel, hscope]
      rw [hgiven]
      refine ⟨rfl, rfl, Instant.le_refl _, fun t => ?_⟩
      have hsignal : (b.moment.cancel s.token).isCancelled t = true ↔
          t = s.token ∨ b.moment.isCancelled t = true := by
        simp [Moment.isCancelled, Moment.cancel]
      rw [hsignal, or_comm]
      apply or_congr_right
      constructor
      · rintro rfl
        exact ⟨n, List.mem_singleton_self n, s, hscope, rfl⟩
      · rintro ⟨m, hm, s', hs', rfl⟩
        cases List.mem_singleton.mp hm
        cases hscope.symm.trans hs'
        rfl

/-- Time passes. -/
theorem signalled_later {t : Instant} (h : b.moment.now ≤ t) :
    b.Signalled [] { b with moment := { b.moment with now := t } } :=
  { Signalled.refl b with now := h }

/-- Between polls only the clock moves. -/
theorem signalled_tick (t : Operation.Tick) (b : Board) : b.Signalled [] (t.act b) := by
  cases t with
  | settle => exact .refl b
  | jump due => exact signalled_later (Instant.le_jumpTo _ due)

end Board

namespace Step

variable {α : Type} {result : Except Status Unit}

/-- The scopes on which cancel is called in some steps. -/
def cancels (steps : List Step) : List Nat :=
  steps.filterMap fun
    | cancel scope => some scope
    | _ => none

/-- How many steps a turn leaves to be done. -/
def left : Turn (List Step) α → Nat
  | .ready _ => 0
  | .waiting steps => steps.length

/-- The scopes on which cancel is called in the steps that a turn has done. -/
def called (steps : List Step) (t : Turn (List Step) α) : List Nat :=
  cancels (steps.take (steps.length - left t))

theorem called_cons {step : Step} {rest : List Step} {t : Turn (List Step) α}
    (h : left t ≤ rest.length) : called (step :: rest) t = cancels [step] ++ called rest t := by
  have hdone : (step :: rest).length - left t = (rest.length - left t) + 1 := by
    rw [List.length_cons]
    omega
  rw [called, hdone, List.take_succ_cons, ← List.singleton_append, cancels, List.filterMap_append]
  rfl

/-- A turn that stops at its first step has called nothing. -/
theorem called_of_stop (step step' : Step) (rest : List Step) :
    called (step :: rest) (Turn.waiting (α := α) (step' :: rest)) = [] := by
  simp only [called, left, List.length_cons, Nat.sub_self, List.take_zero]
  rfl

/-- **What a turn does to the board**: the steps that it has done give their signals. -/
theorem signalled_play (steps : List Step) (b : Board) :
    left (play result steps b).1 ≤ steps.length ∧
      b.Signalled (called steps (play result steps b).1) (play result steps b).2 := by
  induction steps generalizing b with
  | nil => exact ⟨Nat.le_refl _, .refl b⟩
  | cons step rest ih =>
      have hstops : ∀ step', b.Signalled (called (step :: rest)
          (Turn.waiting (α := Except Status Unit) (step' :: rest))) b := by
        intro step'
        rw [called_of_stop]
        exact .refl b
      have hgoesOn : ∀ b', b.Signalled (cancels [step]) b' →
          left (play result rest b').1 ≤ (step :: rest).length ∧
            b.Signalled (called (step :: rest) (play result rest b').1)
              (play result rest b').2 := by
        intro b' hstep
        obtain ⟨hleft, hrest⟩ := ih b'
        rw [called_cons hleft]
        exact ⟨Nat.le_succ_of_le hleft, hstep.trans hrest⟩
      cases step with
      | yield => exact ⟨Nat.le_refl _, hstops _⟩
      | pending => exact ⟨Nat.le_refl _, hstops _⟩
      | cancel n => exact hgoesOn (b.cancel n) (b.signalled_cancel n)
      | pause p =>
          rcases hturn : Pause.operation.turn p b with ⟨_ | p', b'⟩
          all_goals
            obtain rfl : b = b' := congrArg Prod.snd hturn
            simp only [play, hturn]
          · exact hgoesOn b (.refl b)
          · exact ⟨Nat.le_refl _, hstops _⟩

/-- The steps of an operation, with a log of the scopes on which cancel is called. -/
def logged (result : Except Status Unit) :
    Operation (Logged Board Nat) (List Step) (Except Status Unit) :=
  (operation result).logging called

end Step

namespace Board

/-- A run that is waited for leaves the board as the run does. -/
theorem run_world {σ : Type} (b : Board) (own : Nat)
    (op : Operation Board σ (Except Status Unit)) (st : σ) :
    (b.run own op st).2 = (op.run (some (b.moment.now.later patience)) (own + 2) st b).2 := by
  unfold run
  split <;> rename_i hrun <;> rw [hrun]

/-- The scopes on which cancel is called while a guard runs some steps. -/
def calledIn (b : Board) (s : Scope) (steps : List Step) (result : Except Status Unit) :
    List Nat :=
  ((s.guard (Step.logged result)).run (some (b.moment.now.later patience)) (steps.length + 2)
    (.fresh steps) ⟨b, []⟩).2.log

/-- **A guard gives the signals that its log names**, and nothing else happens on the board but that
time passes. -/
theorem signalled_guard (b : Board) (s : Scope) (steps : List Step)
    (result : Except Status Unit) :
    b.Signalled (b.calledIn s steps result)
      (b.run steps.length (s.guard (Step.operation result)) (.fresh steps)).2 := by
  have hshadow := ((Step.operation result).shadows_logging Step.called).guard s
  have hrun := hshadow.run (some (b.moment.now.later patience)) (steps.length + 2)
    (.fresh steps) ⟨b, []⟩
  rw [run_world, ← hrun]
  refine Operation.run_induction (P := fun w : Logged Board Nat => b.Signalled w.log w.world)
    ?_ ?_ _ _ _ (.refl b)
  · intro g w hw
    rcases Scope.guard_turn_world s (Step.logged result) g w with hsame | hturn
    · rw [hsame]
      exact hw
    · rw [hturn]
      exact hw.trans (Step.signalled_play g.inner w.world).2
  · intro t w hw
    have htick := hw.trans (signalled_tick t w.world)
    rw [List.append_nil] at htick
    rw [Operation.act_logged]
    exact htick

/-- Nothing happens on the board while a scope sleeps but that time passes. -/
theorem signalled_sleep (b : Board) (s : Scope) (d : Duration) :
    b.Signalled [] (b.run 1 s.sleep (.fresh (.fresh d))).2 := by
  rw [run_world]
  refine Operation.run_induction (P := b.Signalled []) ?_ ?_ _ _ _ (.refl b)
  · intro g w hw
    rw [s.sleep_turn_world]
    exact hw
  · intro t w hw
    exact hw.trans (signalled_tick t w)

end Board

end RpcConformance
