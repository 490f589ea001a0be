import Mathlib.Data.List.Basic
import RpcConformance.Suite.Selection

/-!
# What a selection selects

A selection asks for scenarios by name and by category, and for all of them where it gives neither.
Names and categories widen what is asked for, requirements narrow what is run.  Both are conditions
on one scenario, so a selection keeps the order and the repetitions of the catalogue, and what it
keeps depends only on which names and categories are given.  What is logged meanwhile are the
scenarios that requirements leave out, in their order, and nothing in a selection that fails.

## Main results

* `Selection.sift_eq` — what is kept, and what is logged.
* `Selection.selectLogging_error_iff` — a selection fails at its first unknown name, and only there.
* `Selection.selectLogging_ok_iff` — what is selected and logged otherwise.
* `Selection.Unites.select`, `Selection.select_sublist` — two selections, and two targets.
* `Selection.selection_is_exact` — the whole of it, with what follows for two selections.
-/

namespace RpcConformance

/-- The target has both directions at once, and trailers, where the scenario requires them. -/
def Capabilities.Suffice (c : Capabilities) (info : ScenarioInfo) : Prop :=
  (Requirement.fullDuplex ∈ info.requires → c.fullDuplex = true) ∧
    (Requirement.trailers ∈ info.requires → c.trailers = true)

instance (c : Capabilities) (info : ScenarioInfo) : Decidable (c.Suffice info) :=
  inferInstanceAs (Decidable (_ ∧ _))

/-- The first target is the second one with some of its features switched on. -/
def Capabilities.Includes (c₁ c₂ : Capabilities) : Prop :=
  (c₂.fullDuplex = true → c₁.fullDuplex = true) ∧ (c₂.trailers = true → c₁.trailers = true)

namespace Selection

variable {ρ : Type}

/-- The selection gives neither a name nor a category. -/
def GivesNothing (s : Selection) : Prop := s.names = [] ∧ s.categories = []

instance (s : Selection) : Decidable s.GivesNothing :=
  inferInstanceAs (Decidable (s.names = [] ∧ s.categories = []))

/-- The scenario is asked for by name or by category, or by a selection that gives neither. -/
def AsksFor (s : Selection) (info : ScenarioInfo) : Prop :=
  s.GivesNothing ∨ info.name ∈ s.names ∨ info.category ∈ s.categories

instance (s : Selection) (info : ScenarioInfo) : Decidable (s.AsksFor info) :=
  inferInstanceAs (Decidable (_ ∨ _))

/-- The catalogue has a scenario of the name. -/
def Known (scenarios : List (Scenario ρ)) (name : String) : Prop := ∃ x ∈ scenarios, x.name = name

instance (scenarios : List (Scenario ρ)) (name : String) : Decidable (Known scenarios name) :=
  inferInstanceAs (Decidable (∃ x ∈ scenarios, x.name = name))

/-- The error names the first of the selected names that no scenario has. -/
def NamesFirstUnknown (s : Selection) (scenarios : List (Scenario ρ)) (e : SelectionError) : Prop :=
  ∃ before name after, s.names = before ++ name :: after ∧ (∀ n ∈ before, Known scenarios n) ∧
    ¬Known scenarios name ∧ e = .unknownScenario name

/-- Two selections give the same names and the same categories, in some order and number. -/
structure Alike (s₁ s₂ : Selection) : Prop where
  names : ∀ name, name ∈ s₁.names ↔ name ∈ s₂.names
  categories : ∀ category, category ∈ s₁.categories ↔ category ∈ s₂.categories

/-- A selection gives the names and categories of two others, in some order and number. -/
structure Unites (s s₁ s₂ : Selection) : Prop where
  names : ∀ name, name ∈ s.names ↔ name ∈ s₁.names ∨ name ∈ s₂.names
  categories : ∀ category, category ∈ s.categories ↔
    category ∈ s₁.categories ∨ category ∈ s₂.categories

/-- The scenarios of the catalogue that are in one of two lists, as often and in the order in which
the catalogue has them. -/
def UnionIn (scenarios l₁ l₂ l : List (Scenario ρ)) : Prop :=
  ∃ kept : Scenario ρ → Bool,
    (∀ x ∈ scenarios, kept x = true ↔ x ∈ l₁ ∨ x ∈ l₂) ∧ l = scenarios.filter kept

/-! ## The conditions on one scenario -/

theorem selects_iff (s : Selection) (info : ScenarioInfo) :
    s.selects info = true ↔ s.AsksFor info := by
  simp [selects, isEmpty, AsksFor, GivesNothing, or_assoc]

theorem meets_iff (c : Capabilities) (info : ScenarioInfo) :
    c.meets info = true ↔ c.Suffice info := by
  rw [Capabilities.meets, List.all_eq_true]
  constructor
  · intro h
    exact ⟨h .fullDuplex, h .trailers⟩
  · rintro ⟨hduplex, htrailers⟩ r hr
    cases r with
    | fullDuplex => exact hduplex hr
    | trailers => exact htrailers hr

theorem suffice_mono {c₁ c₂ : Capabilities} {info : ScenarioInfo} (h : c₂.Includes c₁)
    (hc : c₁.Suffice info) : c₂.Suffice info :=
  ⟨fun hr => h.1 (hc.1 hr), fun hr => h.2 (hc.2 hr)⟩

theorem Alike.asksFor_iff {s₁ s₂ : Selection} (h : Alike s₁ s₂) (info : ScenarioInfo) :
    s₁.AsksFor info ↔ s₂.AsksFor info := by
  simp only [AsksFor, GivesNothing, List.eq_nil_iff_forall_not_mem, h.names, h.categories]

theorem asksFor_of_given {s : Selection} (h : ¬s.GivesNothing) (info : ScenarioInfo) :
    s.AsksFor info ↔ info.name ∈ s.names ∨ info.category ∈ s.categories :=
  or_iff_right h

theorem Unites.given {s s₁ s₂ : Selection} (h : s.Unites s₁ s₂) (h₁ : ¬s₁.GivesNothing) :
    ¬s.GivesNothing := by
  intro hnone
  apply h₁
  simp only [GivesNothing, List.eq_nil_iff_forall_not_mem, h.names, h.categories, not_or] at hnone ⊢
  exact ⟨fun name => (hnone.1 name).1, fun category => (hnone.2 category).1⟩

theorem Unites.asksFor_iff {s s₁ s₂ : Selection} (h : s.Unites s₁ s₂) (h₁ : ¬s₁.GivesNothing)
    (h₂ : ¬s₂.GivesNothing) (info : ScenarioInfo) :
    s.AsksFor info ↔ s₁.AsksFor info ∨ s₂.AsksFor info := by
  rw [asksFor_of_given (h.given h₁), asksFor_of_given h₁, asksFor_of_given h₂, h.names,
    h.categories]
  exact or_or_or_comm ..

/-! ## Failing and selecting -/

theorem unknownName?_eq_none_iff (s : Selection) (scenarios : List (Scenario ρ)) :
    s.unknownName? scenarios = none ↔ ∀ name ∈ s.names, Known scenarios name := by
  simp [unknownName?, Known]

theorem unknownName?_eq_some_iff (s : Selection) (scenarios : List (Scenario ρ)) (name : String) :
    s.unknownName? scenarios = some name ↔
      s.NamesFirstUnknown scenarios (.unknownScenario name) := by
  rw [unknownName?, List.find?_eq_some_iff_append]
  constructor
  · rintro ⟨hunknown, before, after, hnames, hbefore⟩
    refine ⟨before, name, after, hnames, fun n hn => ?_, ?_, rfl⟩
    · simpa [Known] using hbefore n hn
    · simpa [Known] using hunknown
  · rintro ⟨before, _, after, hnames, hbefore, hunknown, ⟨⟩⟩
    refine ⟨?_, before, after, hnames, fun n hn => ?_⟩
    · simpa [Known] using hunknown
    · simpa [Known] using hbefore n hn

/-- **What going through scenarios keeps and logs.** -/
theorem sift_eq (c : Capabilities) (l : List (Scenario ρ)) :
    sift c l = (l.filter fun x => c.Suffice x.toScenarioInfo,
      (l.filter fun x => ¬c.Suffice x.toScenarioInfo).map fun x => skipMessage x.toScenarioInfo) := by
  induction l with
  | nil => rfl
  | cons x rest ih =>
      rw [sift, ih]
      by_cases h : c.Suffice x.toScenarioInfo
      · simp [(meets_iff c x.toScenarioInfo).mpr h, h]
      · simp [Bool.eq_false_iff.mpr (mt (meets_iff c x.toScenarioInfo).mp h), h]

theorem filter_selected (s : Selection) (scenarios : List (Scenario ρ)) (P : ScenarioInfo → Prop)
    [DecidablePred P] :
    ((s.selected scenarios).filter fun x => P x.toScenarioInfo) =
      scenarios.filter fun x => s.AsksFor x.toScenarioInfo ∧ P x.toScenarioInfo := by
  simp [selected, List.filter_filter, Bool.and_comm, ← selects_iff]

theorem selectLogging_of_known {s : Selection} {scenarios : List (Scenario ρ)}
    (h : ∀ name ∈ s.names, Known scenarios name) (c : Capabilities) :
    s.selectLogging scenarios c =
      (.ok (scenarios.filter fun x => s.AsksFor x.toScenarioInfo ∧ c.Suffice x.toScenarioInfo),
        (scenarios.filter fun x =>
          s.AsksFor x.toScenarioInfo ∧ ¬c.Suffice x.toScenarioInfo).map
            fun x => skipMessage x.toScenarioInfo) := by
  rw [selectLogging, (unknownName?_eq_none_iff s scenarios).mpr h, sift_eq,
    filter_selected s scenarios c.Suffice, filter_selected s scenarios fun info => ¬c.Suffice info]

theorem selectLogging_of_unknown {s : Selection} {scenarios : List (Scenario ρ)}
    {e : SelectionError} (h : s.NamesFirstUnknown scenarios e) (c : Capabilities) :
    s.selectLogging scenarios c = (.error e, []) := by
  obtain ⟨name⟩ := e
  rw [selectLogging, (unknownName?_eq_some_iff s scenarios name).mpr h]

theorem known_or_unknown (s : Selection) (scenarios : List (Scenario ρ)) :
    (∀ name ∈ s.names, Known scenarios name) ∨ ∃ e, s.NamesFirstUnknown scenarios e := by
  cases hunknown : s.unknownName? scenarios with
  | none => exact .inl ((unknownName?_eq_none_iff s scenarios).mp hunknown)
  | some name => exact .inr ⟨_, (unknownName?_eq_some_iff s scenarios name).mp hunknown⟩

theorem NamesFirstUnknown.not_known {s : Selection} {scenarios : List (Scenario ρ)}
    {e : SelectionError} (h : s.NamesFirstUnknown scenarios e) :
    ¬∀ name ∈ s.names, Known scenarios name := by
  obtain ⟨before, name, after, hnames, -, hunknown, -⟩ := h
  exact fun hknown => hunknown (hknown name (by simp [hnames]))

/-- **A selection fails** at its first unknown name, whatever its categories and the target, and
has logged nothing. -/
theorem selectLogging_error_iff (s : Selection) (scenarios : List (Scenario ρ)) (c : Capabilities)
    (e : SelectionError) (log : List String) :
    s.selectLogging scenarios c = (.error e, log) ↔
      s.NamesFirstUnknown scenarios e ∧ log = [] := by
  constructor
  · intro h
    rcases known_or_unknown s scenarios with hknown | ⟨e', hunknown⟩
    · rw [selectLogging_of_known hknown] at h
      cases h
    · rw [selectLogging_of_unknown hunknown] at h
      cases h
      exact ⟨hunknown, rfl⟩
  · rintro ⟨hunknown, rfl⟩
    exact selectLogging_of_unknown hunknown c

/-- **What is selected and logged** where every name is known. -/
theorem selectLogging_ok_iff (s : Selection) (scenarios : List (Scenario ρ)) (c : Capabilities)
    (l : List (Scenario ρ)) (log : List String) :
    s.selectLogging scenarios c = (.ok l, log) ↔
      (∀ name ∈ s.names, Known scenarios name) ∧
        (l = scenarios.filter fun x =>
          s.AsksFor x.toScenarioInfo ∧ c.Suffice x.toScenarioInfo) ∧
        log = (scenarios.filter fun x =>
          s.AsksFor x.toScenarioInfo ∧ ¬c.Suffice x.toScenarioInfo).map
            fun x => skipMessage x.toScenarioInfo := by
  constructor
  · intro h
    rcases known_or_unknown s scenarios with hknown | ⟨e, hunknown⟩
    · rw [selectLogging_of_known hknown] at h
      cases h
      exact ⟨hknown, rfl, rfl⟩
    · rw [selectLogging_of_unknown hunknown] at h
      cases h
  · rintro ⟨hknown, rfl, rfl⟩
    exact selectLogging_of_known hknown c

/-! ## Two selections, and two targets -/

variable {s s₁ s₂ : Selection}

theorem select_ok_iff (s : Selection) (scenarios : List (Scenario ρ)) (c : Capabilities)
    (l : List (Scenario ρ)) :
    s.select scenarios c = .ok l ↔
      (∀ name ∈ s.names, Known scenarios name) ∧
        l = scenarios.filter fun x =>
          s.AsksFor x.toScenarioInfo ∧ c.Suffice x.toScenarioInfo := by
  rcases known_or_unknown s scenarios with hknown | ⟨e, hunknown⟩
  · rw [select, selectLogging_of_known hknown, Except.ok.injEq, eq_comm]
    exact (and_iff_right hknown).symm
  · rw [select, selectLogging_of_unknown hunknown]
    exact iff_of_false nofun fun h => hunknown.not_known h.1

/-- **How a selection is written** makes no difference. -/
theorem Alike.selectLogging_ok_iff (h : Alike s₁ s₂) (scenarios : List (Scenario ρ))
    (c : Capabilities) (l : List (Scenario ρ)) (log : List String) :
    s₁.selectLogging scenarios c = (.ok l, log) ↔
      s₂.selectLogging scenarios c = (.ok l, log) := by
  simp only [Selection.selectLogging_ok_iff, h.names, h.asksFor_iff]

/-- **Two selections together** select what either selects. -/
theorem Unites.select (h : s.Unites s₁ s₂) (h₁ : ¬s₁.GivesNothing) (h₂ : ¬s₂.GivesNothing)
    {scenarios l₁ l₂ : List (Scenario ρ)} {c : Capabilities}
    (hl₁ : s₁.select scenarios c = .ok l₁) (hl₂ : s₂.select scenarios c = .ok l₂) :
    ∃ l, s.select scenarios c = .ok l ∧ UnionIn scenarios l₁ l₂ l := by
  obtain ⟨hknown₁, rfl⟩ := (Selection.select_ok_iff ..).mp hl₁
  obtain ⟨hknown₂, rfl⟩ := (Selection.select_ok_iff ..).mp hl₂
  have hknown : ∀ name ∈ s.names, Known scenarios name := by
    intro name hname
    rcases (h.names name).mp hname with hname | hname
    · exact hknown₁ name hname
    · exact hknown₂ name hname
  refine ⟨_, (Selection.select_ok_iff ..).mpr ⟨hknown, rfl⟩, _, ?_, rfl⟩
  intro x hx
  simp [h.asksFor_iff h₁ h₂, hx, or_and_right]

/-- **A target with more features** is given no fewer scenarios. -/
theorem select_sublist {c₁ c₂ : Capabilities} (h : c₂.Includes c₁)
    {scenarios l : List (Scenario ρ)} (hl : s.select scenarios c₁ = .ok l) :
    ∃ l', s.select scenarios c₂ = .ok l' ∧ l.Sublist l' := by
  obtain ⟨hknown, rfl⟩ := (select_ok_iff ..).mp hl
  refine ⟨_, (select_ok_iff ..).mpr ⟨hknown, rfl⟩, ?_⟩
  apply List.monotone_filter_right scenarios
  intro x hx
  have hboth := of_decide_eq_true hx
  exact decide_eq_true ⟨hboth.1, suffice_mono h hboth.2⟩

/-- **What a selection selects.**  It fails just where it gives a name that the catalogue does not
have, with the first such name, and then nothing is logged.  Otherwise it selects the scenarios that
it asks for and whose requirements the target meets, and logs a line for each of the others that it
asks for, both as the catalogue has them.  So the order and the repetition of what it gives make no
difference, two selections together select what either selects, and a target with more features is
given no fewer scenarios, in the same order. -/
theorem selection_is_exact (s : Selection) (scenarios : List (Scenario ρ)) (c : Capabilities) :
    (∀ e log, s.selectLogging scenarios c = (.error e, log) ↔
      s.NamesFirstUnknown scenarios e ∧ log = []) ∧
      (∀ l log, s.selectLogging scenarios c = (.ok l, log) ↔
        (∀ name ∈ s.names, Known scenarios name) ∧
          (l = scenarios.filter fun x =>
            s.AsksFor x.toScenarioInfo ∧ c.Suffice x.toScenarioInfo) ∧
          log = (scenarios.filter fun x =>
            s.AsksFor x.toScenarioInfo ∧ ¬c.Suffice x.toScenarioInfo).map
              fun x => "skipping " ++ x.name ++ ": requires " ++ x.requirementText) ∧
      (∀ other, Alike s other → ∀ l log,
        s.selectLogging scenarios c = (.ok l, log) ↔
          other.selectLogging scenarios c = (.ok l, log)) ∧
      (∀ (other both : Selection) l₁ l₂, both.Unites s other →
        ¬s.GivesNothing → ¬other.GivesNothing →
        s.select scenarios c = .ok l₁ → other.select scenarios c = .ok l₂ →
        ∃ l, both.select scenarios c = .ok l ∧ UnionIn scenarios l₁ l₂ l) ∧
      ∀ more l, more.Includes c → s.select scenarios c = .ok l →
        ∃ l', s.select scenarios more = .ok l' ∧ l.Sublist l' := by
  refine ⟨selectLogging_error_iff s scenarios c, selectLogging_ok_iff s scenarios c, ?_, ?_, ?_⟩
  · intro other h
    exact h.selectLogging_ok_iff scenarios c
  · intro other both l₁ l₂ h h₁ h₂ hl₁ hl₂
    exact h.select h₁ h₂ hl₁ hl₂
  · intro more l h hl
    exact select_sublist h hl

namespace SelectionSample

/-- A catalogue with one name twice. -/
def samples : List (Scenario Unit) :=
  [⟨⟨"status", .status, []⟩, fun _ => pure ()⟩,
    ⟨⟨"duplex", .streaming, [.fullDuplex]⟩, fun _ => pure ()⟩,
    ⟨⟨"soak", .diagnostic, []⟩, fun _ => pure ()⟩,
    ⟨⟨"status", .unary, []⟩, fun _ => pure ()⟩]

def oneWay : Capabilities := { fullDuplex := false }

def byName : Selection := { names := ["status", "duplex"] }

def byCategory : Selection := { categories := [.diagnostic, .streaming] }

/-- Both of them, with a name given twice. -/
def byBoth : Selection :=
  { names := ["duplex", "status", "duplex"], categories := [.streaming, .diagnostic] }

theorem byBoth_unites : byBoth.Unites byName byCategory := by
  constructor
  · simp [byBoth, byName, byCategory]
  · simp [byBoth, byName, byCategory, or_comm]

end SelectionSample

open SelectionSample in
/-- Both selections leave the duplex scenario out, and say so. -/
theorem sampleSelections_united :
    byName.selectLogging samples oneWay =
      (.ok (samples.filter (·.name = "status")),
        ["skipping duplex: requires [FullDuplex]"]) ∧
    ∃ l₁ l₂ l, byName.select samples oneWay = .ok l₁ ∧ byCategory.select samples oneWay = .ok l₂ ∧
      byBoth.select samples oneWay = .ok l ∧ UnionIn samples l₁ l₂ l := by
  obtain ⟨-, hok₁, -, hunion, -⟩ := selection_is_exact byName samples oneWay
  have hlog := (hok₁ _ _).mpr ⟨by decide, rfl, rfl⟩
  refine ⟨hlog, ?_⟩
  have h₁ : byName.select samples oneWay = .ok _ := congrArg Prod.fst hlog
  have h₂ : byCategory.select samples oneWay = .ok _ :=
    congrArg Prod.fst (selectLogging_of_known (by decide) oneWay)
  obtain ⟨l, hl, hin⟩ := hunion byCategory byBoth _ _ byBoth_unites (by decide) (by decide) h₁ h₂
  exact ⟨_, _, l, h₁, h₂, hl, hin⟩

end Selection

end RpcConformance
