import RpcConformance.CommandLine.ClientProgram

/-!
# The plans of a soak that can be asked for

Each option changes the settings of a program by itself, so what all options keep holds of the
settings that are read, whatever the arguments are.  In this way the numbers of a soak are bounded:
its counts have 32 bits and its times are whole milliseconds and seconds of 64 bits.

## Main results

* `CommandLine.readFrom_keeps` — what all options keep holds of the settings.
* `CommandLine.ClientSettings.admitted_ofArguments` — the plan of a soak that has been asked for.
-/

namespace RpcConformance

theorem Decimal.unsigned?_lt {bits n : Nat} {s : String} (h : Decimal.unsigned? bits s = some n) :
    n < powerOfTwo bits :=
  of_decide_eq_true (Option.filter_eq_some_iff.mp h).2

namespace CommandLine

theorem readNumber_lt {bits n : Nat} {s : String} (h : readNumber bits s = some n) :
    n < powerOfTwo bits := by
  unfold readNumber at h
  split at h
  · have hzero : n = 0 := of_decide_eq_true (Option.filter_eq_some_iff.mp h).2
    rw [hzero, powerOfTwo, Nat.one_shiftLeft]
    exact Nat.two_pow_pos bits
  · exact Decimal.unsigned?_lt h

/-! ## What options keep -/

variable {σ α : Type} {P : σ → Prop} {rules : List (OptionRule σ)} {rule : OptionRule σ}
  {settings result : σ}

/-- The option turns settings with a property into settings with it, whatever its value is. -/
def OptionRule.Keeps (rule : OptionRule σ) (P : σ → Prop) : Prop :=
  match rule.effect with
  | .flag set => ∀ s, P s → P (set s)
  | .value set? => ∀ text set, set? text = some set → ∀ s, P s → P (set s)

theorem OptionRule.keeps_flag {name : String} {set : σ → σ} (h : ∀ s, P s → P (set s)) :
    (OptionRule.flag name set).Keeps P := h

theorem OptionRule.keeps_single {name : String} {read : String → Option α} {set : α → σ → σ}
    (h : ∀ text a, read text = some a → ∀ s, P s → P (set a s)) :
    (OptionRule.single name read set).Keeps P := by
  intro text set' hset s hs
  obtain ⟨a, ha, rfl⟩ := Option.map_eq_some_iff.mp hset
  exact h text a ha s hs

/-- How often an option may be given has no part in what it keeps. -/
theorem OptionRule.keeps_repeated {name : String} {read : String → Option α} {set : α → σ → σ}
    (h : ∀ text a, read text = some a → ∀ s, P s → P (set a s)) :
    (OptionRule.repeated name read set).Keeps P :=
  (OptionRule.keeps_single h : (OptionRule.single name read set).Keeps P)

theorem OptionRule.Keeps.take (h : rule.Keeps P) {given : List String} {value : String}
    (hs : P settings) (htake : take rule given value settings = .ok result) : P result := by
  unfold CommandLine.take at htake
  unfold OptionRule.Keeps at h
  split at htake
  · cases htake
  · cases heffect : rule.effect with
    | flag set =>
        rw [heffect] at h htake
        cases htake
        exact h settings hs
    | value set? =>
        rw [heffect] at h htake
        dsimp only at h htake
        split at htake
        · rename_i set hset
          cases htake
          exact h value set hset settings hs
        · cases htake

/-- An option among the rules, and then the arguments behind it. -/
theorem keeps_takeFirst (hrules : ∀ rule ∈ rules, rule.Keeps P) {p : OptionRule σ → Bool}
    (hrule : rules.find? p = some rule) {given : List String} {value : String}
    {readRest : σ → Except UsageError σ}
    (hrest : ∀ s, P s → readRest s = .ok result → P result) (hs : P settings)
    (h : (take rule given value settings >>= readRest) = .ok result) : P result := by
  cases htake : take rule given value settings with
  | error e =>
      rw [htake] at h
      cases h
  | ok s =>
      rw [htake] at h
      exact hrest s ((hrules rule (List.mem_of_find?_eq_some hrule)).take hs htake) h

/-- **What all options keep holds of the settings that are read.** -/
theorem readFrom_keeps (hrules : ∀ rule ∈ rules, rule.Keeps P) {given arguments : List String}
    (hs : P settings) (h : readFrom rules given settings arguments = .ok result) : P result := by
  fun_induction readFrom rules given settings arguments with
  | case1 | case4 =>
      cases h
      exact hs
  | case8 _ _ _ _ _ _ hrule _ _ ih | case9 _ _ _ _ _ _ hrule _ _ _ ih =>
      exact keeps_takeFirst hrules hrule ih hs h
  | case11 _ _ _ _ _ hrule _ _ _ _ _ ih => exact keeps_takeFirst hrules hrule ih hs h
  | case2 | case3 | case5 | case6 | case7 | case10 | case12 => cases h

end CommandLine

/-! ## The soak -/

/-- What a plan can be: the counts have 32 bits, and the times are as many milliseconds and seconds
as 64 bits can tell. -/
structure SoakPlan.Admitted (plan : SoakPlan) : Prop where
  iterations : plan.iterations < powerOfTwo 32
  maxFailures : plan.maxFailures < powerOfTwo 32
  maxLatency : ∃ ms < wordLimit, plan.maxLatency = .ofMillis ms
  overallTimeout : ∃ secs < wordLimit, plan.overallTimeout = .ofSecs secs

theorem SoakPlan.admitted_default : SoakPlan.Admitted {} :=
  ⟨by decide, by decide, ⟨1000, by decide, rfl⟩, ⟨10, by decide, rfl⟩⟩

namespace CommandLine.ClientSettings

open OptionRule

/-- No option makes a plan that cannot be. -/
theorem rules_keep_admitted : ∀ rule ∈ rules, rule.Keeps fun s => s.soak.Admitted := by
  simp only [rules, List.forall_mem_cons, List.not_mem_nil, false_imp_iff, implies_true, and_true]
  refine ⟨keeps_single fun _ _ _ s hs => hs, keeps_single fun _ _ _ s hs => hs,
    keeps_flag fun s hs => hs, keeps_repeated fun _ _ _ s hs => hs,
    keeps_repeated fun _ _ _ s hs => hs, keeps_flag fun s hs => hs,
    keeps_single fun _ _ _ s hs => hs, keeps_single fun _ _ _ s hs => hs,
    keeps_flag fun s hs => hs, keeps_flag fun s hs => hs, ?reset, ?iterations, ?maxFailures,
    ?maxLatency, ?overallTimeout, keeps_single fun _ _ _ s hs => hs⟩
  case reset => exact keeps_flag fun s hs => ⟨hs.iterations, hs.maxFailures, hs.maxLatency,
      hs.overallTimeout⟩
  case iterations => exact keeps_single fun text n hn s hs => ⟨readNumber_lt hn, hs.maxFailures,
      hs.maxLatency, hs.overallTimeout⟩
  case maxFailures => exact keeps_single fun text n hn s hs => ⟨hs.iterations, readNumber_lt hn,
      hs.maxLatency, hs.overallTimeout⟩
  case maxLatency => exact keeps_single fun text n hn s hs => ⟨hs.iterations, hs.maxFailures,
      ⟨n, Decimal.unsigned?_lt hn, rfl⟩, hs.overallTimeout⟩
  case overallTimeout => exact keeps_single fun text n hn s hs => ⟨hs.iterations, hs.maxFailures,
      hs.maxLatency, ⟨n, Decimal.unsigned?_lt hn, rfl⟩⟩

/-- **A plan that has been asked for is one that can be.** -/
theorem admitted_ofArguments {arguments : List String} {s : ClientSettings}
    (h : ofArguments arguments = .ok s) : s.soak.Admitted :=
  readFrom_keeps (P := fun s => s.soak.Admitted) rules_keep_admitted SoakPlan.admitted_default h

end CommandLine.ClientSettings

end RpcConformance
