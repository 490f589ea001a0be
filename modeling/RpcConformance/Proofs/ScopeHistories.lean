import Mathlib.Logic.Relation
import RpcConformance.Proofs.LoggedRuns
import RpcConformance.Proofs.TriggeredScope

/-!
# Histories of scopes

Whatever is done with scopes, a board changes in three ways only: a scope is created with a signal of
its own, a scope is cloned with its signal and its deadline, or time passes and the signals of the
scopes are given on which cancel is called.  So two scopes share a signal exactly if they are
connected through clones, and the signal has been given exactly if cancel has been called on a
connected scope, by itself or in a step that any guard has run.  Nothing changes a scope, takes a
signal back or turns the clock back, so what a scope reports is latched.

## Main results

* `Board.change_next` — the ways in which an action changes a board.
* `Board.accounted_performed` — what the signals on a board have to do with its history.
* `Board.scopes_latched_and_shared` — what becomes of a scope, and what it reports.
-/

namespace RpcConformance

theorem Instant.le_of_later {t t' : Instant} {d : Duration} (h : t.later? d = some t') : t ≤ t' := by
  simp only [later?] at h
  split at h
  · cases h
    exact t.le_later d
  · cases h

/-- The scope that an action clones. -/
def Action.original? : Action → Option Nat
  | .clone n => some n
  | _ => none

namespace Board

variable {b b' : Board} {a : Action} {actions : List Action}

/-! ## Actions -/

/-- The board after an action.  One whose deadline would be no instant leaves it as it is. -/
def next (b : Board) (a : Action) : Board :=
  match b.perform a with
  | .ok (_, after) => after
  | .error _ => b

/-- The scopes on which cancel is called in an action.  A number without a scope is none. -/
def called (b : Board) (a : Action) : List Nat :=
  (match a with
    | .cancel n => [n]
    | .guard n steps result =>
      b.calledIn (b.scopes.getD n ⟨none, b.nextToken⟩) steps result
    | _ => []).filter (· < b.scopes.length)

/-- The scope that is cloned in an action, with the clone. -/
def cloned (b : Board) (a : Action) : List (Nat × Nat) :=
  (a.original?.map fun n => (n, b.scopes.length)).toList

/-- The deadline with which an action creates a scope, if it creates one. -/
def created? (b : Board) : Action → Option (Option Instant)
  | .new => some none
  | .timeout d => (b.moment.now.later? d).map some
  | .deadlineAt d => (Instant.start.later? d).map some
  | .ofHeaders values =>
    match Scope.announced (Metadata.empty.appendAll Timeout.header values) with
    | some d => (b.moment.now.later? d).map some
    | none => some none
  | .clone n => b.scopes[n]?.map (·.deadline)
  | _ => none

/-- The scope that an action clones is there. -/
def admits (b : Board) (a : Action) : Bool := a.original?.all (· < b.scopes.length)

/-- What an action makes of a board. -/
inductive Change (b : Board) (a : Action) : Board → Prop
  /-- A scope is created with a signal of its own. -/
  | created {deadline : Option Instant} (hcreated : b.created? a = some deadline)
      (hcalled : b.called a = []) (hcloned : b.cloned a = []) : Change b a (b.create deadline)
  | cloned {n : Nat} {s : Scope} (hscope : b.scopes[n]? = some s)
      (hcreated : b.created? a = some s.deadline) (hcalled : b.called a = [])
      (hcloned : b.cloned a = [(n, b.scopes.length)]) : Change b a (b.add s)
  | signalled {after : Board} (h : b.Signalled (b.called a) after)
      (hcreated : b.created? a = none) (hcloned : b.cloned a = []) : Change b a after

/-- A number without a scope gives no signal. -/
theorem Signalled.filter {numbers : List Nat} (h : b.Signalled numbers b') :
    b.Signalled (numbers.filter (· < b.scopes.length)) b' where
  scopes := h.scopes
  nextToken := h.nextToken
  now := h.now
  signals t := by
    rw [h.signals]
    apply or_congr_right
    constructor
    · rintro ⟨n, hn, s, hs, ht⟩
      have hlt : n < b.scopes.length := (List.getElem?_eq_some_iff.mp hs).1
      exact ⟨n, List.mem_filter.mpr ⟨hn, decide_eq_true hlt⟩, s, hs, ht⟩
    · rintro ⟨n, hn, hs⟩
      exact ⟨n, (List.mem_filter.mp hn).1, hs⟩

/-- A scope is created with a deadline that is an instant, or not at all. -/
theorem change_createLater {t : Instant} {d : Duration}
    (hnext : b.next a = match b.createLater t d with | .ok after => after | .error _ => b)
    (hcreated : b.created? a = (t.later? d).map some) (hcalled : b.called a = [])
    (hcloned : b.cloned a = []) : b.Change a (b.next a) := by
  rw [hnext]
  cases hlater : t.later? d with
  | none =>
      rw [hlater] at hcreated
      simp only [createLater, hlater]
      refine .signalled ?_ hcreated hcloned
      rw [hcalled]
      exact .refl b
  | some deadline =>
      rw [hlater] at hcreated
      simp only [createLater, hlater]
      exact .created hcreated hcalled hcloned

/-- **The ways in which an action changes a board.** -/
theorem change_next (hadmits : b.admits a = true) : b.Change a (b.next a) := by
  have hasks : b.next a = b → b.called a = [] → b.created? a = none → b.cloned a = [] →
      b.Change a (b.next a) := by
    intro hnext hcalled hcreated hcloned
    rw [hnext]
    refine .signalled ?_ hcreated hcloned
    rw [hcalled]
    exact .refl b
  cases a with
  | isCancelled | isExpired | remaining | deadline | check => exact hasks rfl rfl rfl rfl
  | new => exact .created rfl rfl rfl
  | timeout d =>
      apply change_createLater (t := b.moment.now) (d := d) _ rfl rfl rfl
      simp only [next, perform]
      cases b.createLater b.moment.now d <;> rfl
  | deadlineAt d =>
      apply change_createLater (t := .start) (d := d) _ rfl rfl rfl
      simp only [next, perform]
      cases b.createLater .start d <;> rfl
  | ofHeaders values =>
      cases hannounced : Scope.announced (Metadata.empty.appendAll Timeout.header values) with
      | none =>
          have hnext : b.next (.ofHeaders values) = b.create none := by
            simp only [next, perform, hannounced]
            rfl
          rw [hnext]
          exact .created (by simp only [created?, hannounced]) rfl rfl
      | some d =>
          apply change_createLater (t := b.moment.now) (d := d) _ _ rfl rfl
          · simp only [next, perform, hannounced]
            cases b.createLater b.moment.now d <;> rfl
          · simp only [created?, hannounced]
  | clone n =>
      have hn : n < b.scopes.length := of_decide_eq_true hadmits
      have hscope : b.scopes[n]? = some b.scopes[n] := List.getElem?_eq_getElem hn
      have hnext : b.next (.clone n) = b.add b.scopes[n] := by
        simp only [next, perform, List.getD_eq_getElem?_getD, hscope, Option.getD_some]
      rw [hnext]
      exact .cloned hscope (by simp only [created?, hscope, Option.map_some]) rfl rfl
  | cancel n =>
      exact .signalled (b.signalled_cancel n).filter rfl rfl
  | advance d =>
      cases hlater : b.moment.now.later? d with
      | none => exact hasks (by simp only [next, perform, hlater]) rfl rfl rfl
      | some t =>
          have hnext : b.next (.advance d) = Scheduler.moveTo t b := by
            simp only [next, perform, hlater]
          rw [hnext]
          exact .signalled { Signalled.refl b with now := Instant.le_of_later hlater } rfl rfl
  | sleep n d => exact .signalled (b.signalled_sleep _ d) rfl rfl
  | guard n steps result =>
      exact .signalled (b.signalled_guard _ steps result).filter rfl rfl

/-- Scopes are only added. -/
theorem Change.scopes (h : b.Change a b') : b.scopes <+: b'.scopes := by
  cases h with
  | created => exact List.prefix_append _ _
  | cloned => exact List.prefix_append _ _
  | signalled h => exact h.scopes ▸ List.prefix_rfl

/-- The clock is not turned back, and no signal is taken back. -/
theorem Change.moment (h : b.Change a b') : b.moment.Precedes b'.moment := by
  cases h with
  | created => exact .refl _
  | cloned => exact .refl _
  | signalled h => exact ⟨h.now, fun t ht => (h.signals t).mpr (Or.inl ht)⟩

/-- A scope that an action creates comes last, with the deadline of the action. -/
theorem Change.deadlines (h : b.Change a b') :
    b'.scopes.map (·.deadline) = b.scopes.map (·.deadline) ++ (b.created? a).toList := by
  cases h with
  | created hcreated => rw [hcreated]; exact List.map_append
  | cloned _ hcreated => rw [hcreated]; exact List.map_append
  | signalled h hcreated => rw [hcreated, h.scopes]; exact (List.append_nil _).symm

/-! ## Histories -/

/-- The board after a history. -/
def performed (b : Board) (actions : List Action) : Board := actions.foldl next b

/-- The scopes on which cancel is called in a history. -/
def calls : Board → List Action → List Nat
  | _, [] => []
  | b, a :: rest => b.called a ++ (b.next a).calls rest

/-- The scopes that are cloned in a history, each with the clone. -/
def clones : Board → List Action → List (Nat × Nat)
  | _, [] => []
  | b, a :: rest => b.cloned a ++ (b.next a).clones rest

/-- Every scope that is cloned in a history is there. -/
def fits : Board → List Action → Bool
  | _, [] => true
  | b, a :: rest => b.admits a && (b.next a).fits rest

/-- Two scopes are connected through the clones of a history. -/
def Connected (b : Board) (actions : List Action) : Nat → Nat → Prop :=
  Relation.EqvGen fun m n => (m, n) ∈ b.clones actions

/-! ### The signals of a history -/

/-- The signals on a board as its history accounts for them: with the scopes on which cancel has been
called, and the scopes that have been cloned with their clones. -/
structure Accounted (b : Board) (calls : List Nat) (clones : List (Nat × Nat)) : Prop where
  called : ∀ n ∈ calls, n < b.scopes.length
  cloned : ∀ pair ∈ clones, pair.1 < b.scopes.length ∧ b.scopes[pair.1]? = b.scopes[pair.2]?
  fresh : ∀ s ∈ b.scopes, s.token < b.nextToken
  unused : ∀ t, b.moment.isCancelled t = true → t < b.nextToken
  shared : ∀ {m n s s'}, b.scopes[m]? = some s → b.scopes[n]? = some s' → s.token = s'.token →
    Relation.EqvGen (fun m n => (m, n) ∈ clones) m n
  given : ∀ t, b.moment.isCancelled t = true ↔
    ∃ n ∈ calls, ∃ s, b.scopes[n]? = some s ∧ s.token = t

variable {calls : List Nat} {clones : List (Nat × Nat)}

theorem accounted_start : Accounted start [] [] where
  called := nofun
  cloned := nofun
  fresh := nofun
  unused := nofun
  shared h := by cases h
  given t := ⟨nofun, by rintro ⟨n, hn, -⟩; cases hn⟩

/-- Scopes that are connected are the same. -/
theorem Accounted.same (h : b.Accounted calls clones) {m n : Nat}
    (hconnected : Relation.EqvGen (fun m n => (m, n) ∈ clones) m n) :
    b.scopes[m]? = b.scopes[n]? := by
  induction hconnected with
  | rel m n hpair => exact (h.cloned _ hpair).2
  | refl n => rfl
  | symm m n _ ih => exact ih.symm
  | trans l m n _ _ ih ih' => exact ih.trans ih'

/-- A scope of a board to which one was added. -/
theorem getElem?_concat {scopes : List Scope} {s s' : Scope} {n : Nat}
    (h : (scopes ++ [s])[n]? = some s') :
    scopes[n]? = some s' ∨ n = scopes.length ∧ s' = s := by
  rcases Nat.lt_or_ge n scopes.length with hlt | hge
  · rw [List.getElem?_append_left hlt] at h
    exact Or.inl h
  · have hle : n < (scopes ++ [s]).length := (List.getElem?_eq_some_iff.mp h).1
    rw [List.length_append, List.length_singleton] at hle
    obtain rfl : n = scopes.length := by omega
    rw [List.getElem?_concat_length] at h
    cases h
    exact Or.inr ⟨rfl, rfl⟩

/-- The scopes that were there are the same, and so are the signals that they account for. -/
theorem Accounted.given_concat (h : b.Accounted calls clones) (s : Scope) (t : Token) :
    b.moment.isCancelled t = true ↔
      ∃ n ∈ calls, ∃ s', (b.scopes ++ [s])[n]? = some s' ∧ s'.token = t := by
  rw [h.given]
  constructor <;> rintro ⟨n, hn, s', hs', ht⟩ <;> refine ⟨n, hn, s', ?_, ht⟩
  · rw [List.getElem?_append_left (h.called n hn)]
    exact hs'
  · rw [List.getElem?_append_left (h.called n hn)] at hs'
    exact hs'

theorem Accounted.cloned_concat (h : b.Accounted calls clones) (s : Scope) {pair : Nat × Nat}
    (hpair : pair ∈ clones) : pair.1 < (b.scopes ++ [s]).length ∧
      (b.scopes ++ [s])[pair.1]? = (b.scopes ++ [s])[pair.2]? := by
  obtain ⟨hlt, hsame⟩ := h.cloned pair hpair
  have hscope : b.scopes[pair.2]? = some b.scopes[pair.1] :=
    hsame.symm.trans (List.getElem?_eq_getElem hlt)
  have hlt' : pair.2 < b.scopes.length := (List.getElem?_eq_some_iff.mp hscope).1
  rw [List.length_append, List.getElem?_append_left hlt, List.getElem?_append_left hlt']
  exact ⟨by omega, hsame⟩

/-- A signal of its own is shared by no other scope, and has not been given. -/
theorem Accounted.create (h : b.Accounted calls clones) (deadline : Option Instant) :
    (b.create deadline).Accounted calls clones where
  called n hn := by
    have hlt := h.called n hn
    simp only [Board.create, List.length_append]
    omega
  cloned _ := h.cloned_concat _
  fresh s hs := by
    rcases List.mem_append.mp hs with hold | hnew
    · exact Nat.lt_succ_of_lt (h.fresh s hold)
    · cases List.mem_singleton.mp hnew
      exact Nat.lt_succ_self b.nextToken
  unused t ht := Nat.lt_succ_of_lt (h.unused t ht)
  shared {m n s s'} hs hs' ht := by
    have hfresh : ∀ {k} {s : Scope}, b.scopes[k]? = some s → s.token ≠ b.nextToken := fun hk =>
      Nat.ne_of_lt (h.fresh _ (List.mem_of_getElem? hk))
    rcases getElem?_concat hs with hold | ⟨rfl, rfl⟩ <;>
      rcases getElem?_concat hs' with hold' | ⟨rfl, rfl⟩
    · exact h.shared hold hold' ht
    · exact absurd ht (hfresh hold)
    · exact absurd ht.symm (hfresh hold')
    · exact .refl _
  given := h.given_concat _

/-- A clone is connected with every scope that shares its signal. -/
theorem Accounted.add {n : Nat} {s : Scope} (h : b.Accounted calls clones)
    (hscope : b.scopes[n]? = some s) :
    (b.add s).Accounted calls (clones ++ [(n, b.scopes.length)]) where
  called k hk := by
    have hlt := h.called k hk
    simp only [Board.add, List.length_append]
    omega
  cloned pair hpair := by
    rcases List.mem_append.mp hpair with hold | hnew
    · exact h.cloned_concat s hold
    · cases List.mem_singleton.mp hnew
      have hlt : n < b.scopes.length := (List.getElem?_eq_some_iff.mp hscope).1
      simp only [Board.add, List.length_append, List.getElem?_append_left hlt,
        List.getElem?_concat_length, hscope, and_true]
      omega
  fresh s' hs' := by
    rcases List.mem_append.mp hs' with hold | hnew
    · exact h.fresh s' hold
    · cases List.mem_singleton.mp hnew
      exact h.fresh _ (List.mem_of_getElem? hscope)
  unused := h.unused
  shared {l m s₁ s₂} hs₁ hs₂ ht := by
    have hold : ∀ {l m}, Relation.EqvGen (fun m n => (m, n) ∈ clones) l m →
        Relation.EqvGen (fun m k => (m, k) ∈ clones ++ [(n, b.scopes.length)]) l m :=
      Relation.EqvGen.mono (fun _ _ hpair => List.mem_append_left _ hpair) _ _
    have hnew : Relation.EqvGen (fun m k => (m, k) ∈ clones ++ [(n, b.scopes.length)]) n
        b.scopes.length := .rel _ _ (List.mem_append_right _ (List.mem_singleton_self _))
    rcases getElem?_concat hs₁ with hold₁ | ⟨rfl, rfl⟩ <;>
      rcases getElem?_concat hs₂ with hold₂ | ⟨rfl, rfl⟩
    · exact hold (h.shared hold₁ hold₂ ht)
    · exact .trans _ _ _ (hold (h.shared hold₁ hscope ht)) hnew
    · exact .trans _ _ _ (.symm _ _ hnew) (hold (h.shared hscope hold₂ ht))
    · exact .refl _
  given := h.given_concat _

/-- The signals that are given are those of scopes on which cancel is called. -/
theorem Accounted.signalled {numbers : List Nat} (h : b.Accounted calls clones)
    (hsignalled : b.Signalled numbers b') (hlt : ∀ n ∈ numbers, n < b.scopes.length) :
    b'.Accounted (calls ++ numbers) clones := by
  obtain ⟨hscopes, hnext, -, hsignals⟩ := hsignalled
  refine ⟨?_, ?_, ?_, ?_, ?_, ?_⟩
  · intro n hn
    rw [hscopes]
    exact (List.mem_append.mp hn).elim (h.called n) (hlt n)
  · rw [hscopes]
    exact h.cloned
  · rw [hscopes, hnext]
    exact h.fresh
  · intro t ht
    rw [hnext]
    rcases (hsignals t).mp ht with hbefore | ⟨n, -, s, hs, rfl⟩
    · exact h.unused t hbefore
    · exact h.fresh s (List.mem_of_getElem? hs)
  · intro m n s s' hs hs'
    rw [hscopes] at hs hs'
    exact h.shared hs hs'
  · intro t
    rw [hsignals, h.given, hscopes]
    simp only [List.mem_append, or_and_right, exists_or]

/-- What one action keeps. -/
theorem Accounted.change (h : b.Accounted calls clones) (hchange : b.Change a b') :
    b'.Accounted (calls ++ b.called a) (clones ++ b.cloned a) := by
  cases hchange with
  | created _ hcalled hcloned =>
      rw [hcalled, hcloned, List.append_nil, List.append_nil]
      exact h.create _
  | cloned hscope _ hcalled hcloned =>
      rw [hcalled, hcloned, List.append_nil]
      exact h.add hscope
  | signalled hsignalled _ hcloned =>
      rw [hcloned, List.append_nil]
      exact h.signalled hsignalled fun n hn => of_decide_eq_true (List.mem_filter.mp hn).2

/-- **What the signals on a board have to do with its history.** -/
theorem accounted_performed (h : b.Accounted calls clones) (hfits : b.fits actions = true) :
    (b.performed actions).Accounted (calls ++ b.calls actions) (clones ++ b.clones actions) := by
  induction actions generalizing b calls clones with
  | nil =>
      simp only [Board.calls, Board.clones, List.append_nil]
      exact h
  | cons a rest ih =>
      obtain ⟨hadmits, hrest⟩ := Bool.and_eq_true_iff.mp hfits
      have hnext := ih (h.change (change_next hadmits)) hrest
      simp only [List.append_assoc] at hnext
      exact hnext

/-! ### The scopes of a history -/

/-- The deadlines with which the scopes of a history have been created, in order. -/
def deadlines : Board → List Action → List (Option Instant)
  | _, [] => []
  | b, a :: rest => (b.created? a).toList ++ (b.next a).deadlines rest

/-- No scope gets another deadline. -/
theorem deadlines_performed (hfits : b.fits actions = true) :
    (b.performed actions).scopes.map (·.deadline) =
      b.scopes.map (·.deadline) ++ b.deadlines actions := by
  induction actions generalizing b with
  | nil => exact (List.append_nil _).symm
  | cons a rest ih =>
      obtain ⟨hadmits, hrest⟩ := Bool.and_eq_true_iff.mp hfits
      have hnext := ih hrest
      rw [(change_next hadmits).deadlines, List.append_assoc] at hnext
      exact hnext

/-- No scope is taken away or changed. -/
theorem scopes_performed (hfits : b.fits actions = true) :
    b.scopes <+: (b.performed actions).scopes := by
  induction actions generalizing b with
  | nil => exact List.prefix_rfl
  | cons a rest ih =>
      obtain ⟨hadmits, hrest⟩ := Bool.and_eq_true_iff.mp hfits
      exact (change_next hadmits).scopes.trans (ih hrest)

/-- The clock is never turned back, and no signal is ever taken back. -/
theorem moment_performed (hfits : b.fits actions = true) :
    b.moment.Precedes (b.performed actions).moment := by
  induction actions generalizing b with
  | nil => exact .refl _
  | cons a rest ih =>
      obtain ⟨hadmits, hrest⟩ := Bool.and_eq_true_iff.mp hfits
      exact (change_next hadmits).moment.trans (ih hrest)

end Board

/-! ## What a scope reports -/

namespace Scope

variable {s : Scope} {m m' : Moment}

/-- A scope that has been triggered stays so, and then fails as cancelled or as expired. -/
theorem check_of_precedes (h : s.check m ≠ .ok ()) (hlater : m.Precedes m') :
    s.check m' = .error (s.verdict m') := by
  have hfailure : s.failure? m' ≠ none := by
    intro hnone
    apply h
    rw [check, untriggered_of_precedes hlater hnone]
  have htriggered : s.Triggered m' := by
    by_contra hnot
    obtain ⟨hcancelled, hexpired⟩ := not_or.mp hnot
    exact hfailure (failure?_eq_none_iff.mpr ⟨by simpa using hcancelled, by simpa using hexpired⟩)
  rw [check, failure?_of_triggered htriggered]

theorem isExpired_iff_remaining : s.isExpired m = true ↔ s.remaining m = some ⟨0⟩ := by
  unfold isExpired remaining
  cases s.deadline with
  | none => simp
  | some d =>
      simp only [decide_eq_true_eq, Option.map_some, Option.some.injEq, Instant.since,
        Duration.mk.injEq]
      exact Nat.sub_eq_zero_iff_le.symm

theorem remaining_eq_none_iff : s.remaining m = none ↔ s.deadline = none :=
  Option.map_eq_none_iff

/-- No time is gained by waiting. -/
theorem remaining_antitone {left left' : Duration} (hlater : m.now ≤ m'.now)
    (h : s.remaining m = some left) (h' : s.remaining m' = some left') : left' ≤ left := by
  obtain ⟨d, hd, rfl⟩ := Option.map_eq_some_iff.mp h
  obtain ⟨d', hd', rfl⟩ := Option.map_eq_some_iff.mp h'
  cases hd.symm.trans hd'
  exact Nat.sub_le_sub_left hlater d.nanos

end Scope

namespace Board

variable {actions : List Action} {n : Nat} {s : Scope}

/-- What becomes of a scope in a history from the start: `s` is the scope of number `n`. -/
structure ScopeLife (actions : List Action) (n : Nat) (s : Scope) : Prop where
  /-- Its signal is given by cancel on it or on a connected scope, and by nothing else. -/
  cancelled : s.isCancelled (start.performed actions).moment = true ↔
    ∃ c ∈ start.calls actions, start.Connected actions c n
  created : (start.deadlines actions)[n]? = some s.deadline
  clones : ∀ m s', start.Connected actions m n →
    (start.performed actions).scopes[m]? = some s' → s'.deadline = s.deadline
  kept : ∀ later, start.fits (actions ++ later) = true →
    (start.performed (actions ++ later)).scopes[n]? = some s
  /-- Once it has failed it goes on to fail, as cancelled from the first cancel on. -/
  latched : s.check (start.performed actions).moment ≠ .ok () →
    ∀ later, start.fits (actions ++ later) = true →
      ∃ st, s.check (start.performed (actions ++ later)).moment = .error st ∧
        ((∃ c ∈ start.calls (actions ++ later), start.Connected (actions ++ later) c n) →
          st = Scope.cancelledStatus) ∧
        ((¬∃ c ∈ start.calls (actions ++ later), start.Connected (actions ++ later) c n) →
          st = Scope.expiredStatus)

theorem performed_append (b : Board) (actions later : List Action) :
    b.performed (actions ++ later) = (b.performed actions).performed later :=
  List.foldl_append

theorem fits_append {b : Board} {later : List Action} :
    b.fits (actions ++ later) = (b.fits actions && (b.performed actions).fits later) := by
  induction actions generalizing b with
  | nil => exact (Bool.true_and _).symm
  | cons a rest ih =>
      show (b.admits a && (b.next a).fits (rest ++ later)) = _
      rw [ih, ← Bool.and_assoc]
      rfl

theorem cancelled_iff (hfits : start.fits actions = true)
    (hscope : (start.performed actions).scopes[n]? = some s) :
    s.isCancelled (start.performed actions).moment = true ↔
      ∃ c ∈ start.calls actions, start.Connected actions c n := by
  have haccounted := accounted_performed accounted_start hfits
  simp only [List.nil_append] at haccounted
  rw [Scope.isCancelled, haccounted.given]
  constructor
  · rintro ⟨c, hc, s', hs', htoken⟩
    exact ⟨c, hc, haccounted.shared hs' hscope htoken⟩
  · rintro ⟨c, hc, hconnected⟩
    exact ⟨c, hc, s, (haccounted.same hconnected).trans hscope, rfl⟩

theorem scopeLife (hfits : start.fits actions = true)
    (hscope : (start.performed actions).scopes[n]? = some s) : ScopeLife actions n s := by
  have haccounted := accounted_performed accounted_start hfits
  simp only [List.nil_append] at haccounted
  have hkept : ∀ later, start.fits (actions ++ later) = true →
      (start.performed (actions ++ later)).scopes[n]? = some s := by
    intro later hlater
    rw [fits_append, Bool.and_eq_true] at hlater
    rw [performed_append]
    obtain ⟨added, hadded⟩ := scopes_performed hlater.2
    rw [← hadded, List.getElem?_append_left (List.getElem?_eq_some_iff.mp hscope).1]
    exact hscope
  refine ⟨cancelled_iff hfits hscope, ?_, ?_, hkept, ?_⟩
  · have hdeadlines := deadlines_performed hfits
    rw [show start.scopes = [] from rfl, List.map_nil, List.nil_append] at hdeadlines
    rw [← hdeadlines, List.getElem?_map, hscope]
    rfl
  · intro m s' hconnected hs'
    rw [haccounted.same hconnected, hscope] at hs'
    cases hs'
    rfl
  · intro hfailed later hlater
    have hmoment : (start.performed actions).moment.Precedes
        (start.performed (actions ++ later)).moment := by
      rw [performed_append]
      rw [fits_append, Bool.and_eq_true] at hlater
      exact moment_performed hlater.2
    refine ⟨_, Scope.check_of_precedes hfailed hmoment, ?_, ?_⟩
    · intro hcalled
      rw [Scope.verdict, if_pos ((cancelled_iff hlater (hkept later hlater)).mpr hcalled)]
    · intro hnever
      rw [Scope.verdict,
        if_neg fun h => hnever ((cancelled_iff hlater (hkept later hlater)).mp h)]

/-- **Cancellation and expiry are latched, and shared by exactly the clones.**  The rest is said of
any two moments, since a guard looks at its scope in the middle of an action. -/
theorem scopes_latched_and_shared (hfits : start.fits actions = true)
    (hscope : (start.performed actions).scopes[n]? = some s) :
    ScopeLife actions n s ∧
      (∀ m m', Moment.Precedes m m' → s.check m ≠ .ok () → s.check m' = .error (s.verdict m')) ∧
      (∀ m, s.isExpired m = true ↔ s.remaining m = some ⟨0⟩) ∧
      (∀ m, s.remaining m = none ↔ s.deadline = none) ∧
      ∀ m m' left left', Moment.now m ≤ Moment.now m' → s.remaining m = some left →
        s.remaining m' = some left' → left' ≤ left :=
  ⟨scopeLife hfits hscope, fun _ _ hlater h => Scope.check_of_precedes h hlater,
    fun _ => Scope.isExpired_iff_remaining, fun _ => Scope.remaining_eq_none_iff,
    fun _ _ _ _ hlater h h' => Scope.remaining_antitone hlater h h'⟩

namespace HistorySample

/-- A scope is cloned, and a guard of another scope cancels the clone. -/
def history : List Action :=
  [.new, .timeout (.ofMillis 5), .clone 0,
    .guard 1 [.pause (.fresh (.ofMillis 1)), .cancel 2] (.ok ())]

/-- The scope that was cloned. -/
def original : Scope := ⟨none, 0⟩

end HistorySample

open HistorySample in
theorem sampleScope_life :
    start.fits history = true ∧ (start.performed history).scopes[0]? = some original ∧
      start.calls history = [2] ∧ start.clones history = [(0, 2)] ∧
      original.isCancelled (start.performed history).moment = true ∧
      ScopeLife history 0 original := by
  have hfits : start.fits history = true := by decide +kernel
  have hscope : (start.performed history).scopes[0]? = some original := by decide +kernel
  exact ⟨hfits, hscope, by decide +kernel, by decide +kernel, by decide +kernel,
    (scopes_latched_and_shared hfits hscope).1⟩

end Board

end RpcConformance
