import Mathlib.Data.List.Forall2
import RpcConformance.Proofs.ReportScripts
import RpcConformance.Reporter.Recorder
import RpcConformance.Suite.Run

/-!
# Runs that do not depend on what ran before

What a function reports to the reporter in memory, and how it ends, depends on that reporter only
through the name of the scenario and the mark of failure.  A run sets both before each scenario, so
a scenario's outcome and events are the same wherever it stands in a run, and alone.  The mark at
the end says whether an event other than a success was kept, which is how a function that ended well
is judged.

## Main results

* `Reporting.records` — what a function without a scenario of its own makes of any reporter.
* `Suite.ran_of_judged` — a run gives the account of each of its scenarios.
* `Suite.runs_are_independent` — outcomes and events of a run, scenario by scenario.
-/

namespace RpcConformance

/-! ## One function -/

/-- What the reporter in memory keeps of a function, and how the function ends, where the scenario
has a name and a mark of failure. -/
structure Reporting.Records (t : Reporting) (name : String) (failed : Bool)
    (ended : Option Fatal) (events : List ReportEvent) : Prop where
  perform : ∀ b : Bench Recorder, b.reporter.scenario = name → b.reporter.failed = failed →
    t.perform b = (returned ended, { b with reporter :=
      ⟨name, failed || events.any (·.kind ≠ .success), b.reporter.events ++ events⟩ })
  named : ∀ e ∈ events, e.scenario = name

namespace Reporting

variable {name : String} {failed : Bool} {ended : Option Fatal} {events : List ReportEvent}

/-- A function that reports once, in a way that does not depend on the events before, and then goes
on as another. -/
theorem Records.cons {t rest : Reporting} (kind : ReportKind) (message : String)
    (hfirst : ∀ b : Bench Recorder, b.reporter.scenario = name → b.reporter.failed = failed →
      t.perform b = rest.perform { b with reporter := b.reporter.record kind message })
    (hrest : rest.Records name (failed || kind ≠ .success) ended events) :
    t.Records name failed ended (⟨name, kind, message⟩ :: events) where
  perform b hname hfailed := by
    have hkept := hrest.perform { b with reporter := b.reporter.record kind message } hname
      (by show (b.reporter.failed || _) = _; rw [hfailed])
    rw [hfirst b hname hfailed, hkept]
    have hevents : (b.reporter.record kind message).events ++ events =
        b.reporter.events ++ ⟨name, kind, message⟩ :: events := by
      rw [← hname]
      exact List.append_assoc _ [_] _
    rw [hevents, List.any_cons, Bool.or_assoc]
  named e he := by
    rcases List.mem_cons.mp he with rfl | he
    · rfl
    · exact hrest.named e he

/-- A function that ends without a report. -/
theorem Records.nil {t : Reporting}
    (hperform : ∀ b : Bench Recorder, t.perform b = (returned ended, b)) :
    t.Records name failed ended [] where
  perform b hname hfailed := by
    subst hname hfailed
    rw [hperform b, List.any_nil, Bool.or_false, List.append_nil]
  named e he := absurd he List.not_mem_nil

/-- **What a function reports depends on the name and the mark alone.** -/
theorem records (t : Reporting) (h : t.NeverBegins) (name : String) (failed : Bool) :
    ∃ ended events, t.Records name failed ended events := by
  induction t generalizing failed with
  | finished => exact ⟨none, _, .nil fun _ => rfl⟩
  | gaveUp f => exact ⟨some f, _, .nil fun _ => rfl⟩
  | helper rest ih =>
      obtain ⟨ended, events, hrest⟩ := ih h failed
      exact ⟨ended, events, hrest.perform, hrest.named⟩
  | begin scenario rest ih => exact h.elim
  | error message rest ih =>
      obtain ⟨ended, events, hrest⟩ := ih h _
      exact ⟨_, _, .cons .error message (fun _ _ _ => rfl) hrest⟩
  | success message rest ih =>
      obtain ⟨ended, events, hrest⟩ := ih h _
      refine ⟨_, _, .cons (if failed then .failure else .success)
        (if failed then message ++ afterErrors else message) (fun b _ hfailed => ?_) hrest⟩
      rw [perform_success, hfailed]
  | fatal message rest ih =>
      obtain ⟨ended, events, hrest⟩ := ih ⟨message⟩ (h _) _
      exact ⟨_, _, .cons .fatal message (fun _ _ _ => rfl) hrest⟩
  | failNow rest ih =>
      obtain ⟨ended, events, hrest⟩ := ih ⟨name ++ " failed"⟩ (h _) _
      refine ⟨_, _, .cons .failure "failed" (fun b hname _ => ?_) hrest⟩
      rw [← hname]
      rfl

end Reporting

/-- A procedure that acts on nothing but the reporter and begins no scenario. -/
def OnlyReports (x : ScenarioM Recorder Unit) : Prop :=
  ∃ t : Reporting, t.NeverBegins ∧ x = t.perform

namespace Suite

/-! ## One scenario -/

/-- What a run makes of one scenario: the outcome, and the events that are added. -/
structure Account where
  outcome : ScenarioOutcome
  events : List ReportEvent

/-- A run of some scenarios with an account of each. -/
def Ran (c : Context) (scenarios : List (Scenario Recorder)) (accounts : List Account)
    (b : Bench Recorder) : Prop :=
  ∃ after, run c scenarios b = (.ok ⟨accounts.map (·.outcome)⟩, after) ∧
    after.reporter.events = b.reporter.events ++ accounts.flatMap (·.events)

/-- How a scenario is judged whose function ended well or with a fatal failure: it passes if the
function ended well and kept no event but successes, and otherwise the message says why it does
not. -/
structure Verdict (info : ScenarioInfo) (ended : Option Fatal) (a : Account) : Prop where
  name : a.outcome.name = info.name
  category : a.outcome.category = info.category
  passed : a.outcome.passed = true ↔ ended = none ∧ ∀ e ∈ a.events, e.kind = .success
  quiet : a.outcome.message = none ↔ a.outcome.passed = true
  fatal : ∀ f, ended = some f → a.outcome.message = some f.message
  errors : ended = none → a.outcome.passed = false → a.outcome.message = some errorsReported

/-- The account of a scenario, which is the same whenever the scenario is run. -/
structure Judged (c : Context) (s : Scenario Recorder) (a : Account) : Prop where
  /-- The function ends the same way in every run, and is judged by that. -/
  verdict : ∃ ended : Option Fatal,
    (∀ b : Bench Recorder,
      (s.run c { b with reporter := Reporter.begin s.name b.reporter }).1 =
        Reporting.returned ended) ∧
    Verdict s.toScenarioInfo ended a
  labelled : ∀ e ∈ a.events, e.scenario = s.name
  /-- It is the account of the scenario alone, on a fresh reporter as on any other. -/
  alone : ∀ b : Bench Recorder, Ran c [s] [a] b

variable {c : Context} {s : Scenario Recorder} {scenarios : List (Scenario Recorder)}

theorem ran_nil (b : Bench Recorder) : Ran c [] [] b :=
  ⟨b, rfl, (List.append_nil _).symm⟩

/-- A run begins with the first scenario, and goes on with the others from where that one left the
reporter. -/
theorem ran_cons {a : Account} {accounts : List Account} {b after : Bench Recorder}
    (hone : runOne c s b = (.ok a.outcome, after))
    (hevents : after.reporter.events = b.reporter.events ++ a.events)
    (hrest : Ran c scenarios accounts after) : Ran c (s :: scenarios) (a :: accounts) b := by
  obtain ⟨last, hrun, hlast⟩ := hrest
  refine ⟨last, ?_, ?_⟩
  · have hall : runAll c scenarios after = (.ok (accounts.map (·.outcome)), last) := by
      simp only [run, bind] at hrun
      rcases hrest : runAll c scenarios after with ⟨h | outcomes, b'⟩
      · rw [hrest] at hrun
        cases hrun
      · rw [hrest] at hrun
        cases hrun
        rfl
    simp only [run, runAll, bind, hone, hall]
    rfl
  · rw [hlast, hevents, List.flatMap_cons, List.append_assoc]

/-- A run of one scenario keeps what its function reports, and gives the outcome of that. -/
theorem runOne_of_records {t : Reporting} {ended : Option Fatal} {events : List ReportEvent}
    (hrun : s.run c = t.perform) (h : t.Records s.name false ended events) (b : Bench Recorder) :
    ∃ after, runOne c s b =
        (.ok (outcomeOf s.toScenarioInfo ended (events.any (·.kind ≠ .success))), after) ∧
      after.reporter.events = b.reporter.events ++ events := by
  have hperform := h.perform { b with reporter := Reporter.begin s.name b.reporter } rfl rfl
  unfold runOne
  rw [hrun, hperform]
  cases ended with
  | none => exact ⟨_, rfl, rfl⟩
  | some f => exact ⟨_, rfl, rfl⟩

theorem verdict_outcomeOf (info : ScenarioInfo) (ended : Option Fatal) (events : List ReportEvent) :
    Verdict info ended ⟨outcomeOf info ended (events.any (·.kind ≠ .success)), events⟩ := by
  have hkinds : events.any (·.kind ≠ .success) = false ↔ ∀ e ∈ events, e.kind = .success := by
    simp only [List.any_eq_false, decide_eq_true_eq, ne_eq, Decidable.not_not]
  cases ended with
  | some f =>
      refine ⟨rfl, rfl, ⟨by rintro ⟨⟩, fun h => by cases h.1⟩, ⟨by rintro ⟨⟩, by rintro ⟨⟩⟩, ?_,
        by rintro ⟨⟩⟩
      rintro f' hf
      cases hf
      rfl
  | none =>
      cases hany : events.any (·.kind ≠ .success) with
      | false =>
          exact ⟨rfl, rfl, ⟨fun _ => ⟨rfl, hkinds.mp hany⟩, fun _ => rfl⟩,
            ⟨fun _ => rfl, fun _ => rfl⟩, by rintro _ ⟨⟩, by rintro _ ⟨⟩⟩
      | true =>
          refine ⟨rfl, rfl, ⟨by rintro ⟨⟩, fun h => ?_⟩, ⟨by rintro ⟨⟩, by rintro ⟨⟩⟩,
            by rintro _ ⟨⟩, fun _ _ => rfl⟩
          rw [hkinds.mpr h.2] at hany
          cases hany

/-- **A function that only reports is judged by how it ends and by its events**, whatever the
reporter holds. -/
theorem judged_of_onlyReports (h : OnlyReports (s.run c)) : ∃ a, Judged c s a := by
  obtain ⟨t, hquiet, hrun⟩ := h
  obtain ⟨ended, events, hrecords⟩ := t.records hquiet s.name false
  refine ⟨⟨outcomeOf s.toScenarioInfo ended (events.any (·.kind ≠ .success)), events⟩,
    ⟨ended, fun b => ?_, verdict_outcomeOf _ ended events⟩, hrecords.named, fun b => ?_⟩
  · rw [hrun, hrecords.perform { b with reporter := Reporter.begin s.name b.reporter } rfl rfl]
  · obtain ⟨after, hone, hevents⟩ := runOne_of_records hrun hrecords b
    exact ran_cons hone hevents (ran_nil after)

/-! ## All scenarios -/

/-- A run of one scenario is what it is among others. -/
theorem runOne_of_ran {a : Account} {b : Bench Recorder} (h : Ran c [s] [a] b) :
    ∃ after, runOne c s b = (.ok a.outcome, after) ∧
      after.reporter.events = b.reporter.events ++ a.events := by
  obtain ⟨last, hrun, hevents⟩ := h
  simp only [run, runAll, bind] at hrun
  rcases hone : runOne c s b with ⟨h | outcome, after⟩
  · rw [hone] at hrun
    cases hrun
  · rw [hone] at hrun
    cases hrun
    exact ⟨last, rfl, hevents.trans (by rw [List.flatMap_singleton])⟩

/-- **A run gives the account of each of its scenarios**, whatever the reporter holds. -/
theorem ran_of_judged {accounts : List Account}
    (h : List.Forall₂ (Judged c) scenarios accounts) (b : Bench Recorder) :
    Ran c scenarios accounts b := by
  induction h generalizing b with
  | nil => exact ran_nil b
  | cons hjudged hrest ih =>
      obtain ⟨after, hone, hevents⟩ := runOne_of_ran (hjudged.alone b)
      exact ran_cons hone hevents (ih after)

/-- **A scenario's outcome does not depend on what ran before it.**  A run of scenarios that only
report gives one outcome for each, in order, whatever the reporter holds: the outcome and the
events of each are those of the scenario alone, and the events stand behind all earlier ones.  So a
run of two lists of scenarios one after the other gives the outcomes and the events of both runs,
one after the other. -/
theorem runs_are_independent (h : ∀ s ∈ scenarios, OnlyReports (s.run c)) :
    ∃ accounts, List.Forall₂ (Judged c) scenarios accounts ∧
      (∀ b, Ran c scenarios accounts b) ∧
      ∀ first second, scenarios = first ++ second →
        ∃ accounts₁ accounts₂, accounts = accounts₁ ++ accounts₂ ∧
          (∀ b, Ran c first accounts₁ b) ∧ (∀ b, Ran c second accounts₂ b) := by
  have hjudged : ∃ accounts, List.Forall₂ (Judged c) scenarios accounts := by
    induction scenarios with
    | nil => exact ⟨[], .nil⟩
    | cons s rest ih =>
        obtain ⟨a, ha⟩ := judged_of_onlyReports (h s List.mem_cons_self)
        obtain ⟨accounts, haccounts⟩ := ih fun s hs => h s (List.mem_cons_of_mem _ hs)
        exact ⟨a :: accounts, .cons ha haccounts⟩
  obtain ⟨accounts, haccounts⟩ := hjudged
  refine ⟨accounts, haccounts, ran_of_judged haccounts, ?_⟩
  rintro first second rfl
  have hfirst := List.forall₂_take first.length haccounts
  have hsecond := List.forall₂_drop first.length haccounts
  rw [List.take_left] at hfirst
  rw [List.drop_left] at hsecond
  exact ⟨_, _, (List.take_append_drop first.length accounts).symm, ran_of_judged hfirst,
    ran_of_judged hsecond⟩

namespace RunSample

/-- One scenario gives up, one goes on after an error, one drops a failure that it has reported,
and one passes. -/
def samples : List (Scenario Recorder) :=
  [⟨⟨"aborts", .unary, []⟩, fun _ => ReportStep.runAll [.fatal "gave up"]⟩,
    ⟨⟨"errs", .status, []⟩, fun _ => ReportStep.runAll [.error "not quite", .success "done"]⟩,
    ⟨⟨"drops", .status, []⟩, fun _ => (Reporting.failNow fun _ => .finished).perform⟩,
    ⟨⟨"passes", .errors, []⟩, fun _ => ReportStep.runAll [.success "ok"]⟩]

def context : Context :=
  { client := ⟨{ host := "127.0.0.1", port := 1 }, false⟩
    network := ⟨none⟩ }

theorem onlyReports : ∀ s ∈ samples, OnlyReports (s.run context) := by
  have hscript : ∀ steps, (ReportStep.reportingAll steps).NeverBegins →
      OnlyReports (ReportStep.runAll steps) :=
    fun steps hquiet => ⟨_, hquiet, (ReportStep.perform_reportingAll steps).symm⟩
  intro s hs
  simp only [samples, List.mem_cons, List.not_mem_nil, or_false] at hs
  rcases hs with rfl | rfl | rfl | rfl
  · exact hscript _ fun _ => trivial
  · exact hscript _ trivial
  · exact ⟨.failNow fun _ => .finished, fun _ => trivial, rfl⟩
  · exact hscript _ trivial

end RunSample

open RunSample in
theorem sampleScenarios_judged :
    (∀ s ∈ samples, OnlyReports (s.run context)) ∧
      ∃ accounts, List.Forall₂ (Judged context) samples accounts ∧
        accounts.map (·.outcome) =
          [⟨"aborts", .unary, false, 0, some "gave up"⟩,
            ⟨"errs", .status, false, 0, some "errors were reported"⟩,
            ⟨"drops", .status, false, 0, some "errors were reported"⟩,
            ⟨"passes", .errors, true, 0, none⟩] := by
  obtain ⟨accounts, hjudged, hran, -⟩ := runs_are_independent onlyReports
  obtain ⟨after, hrun, -⟩ := hran (Bench.idle {})
  refine ⟨onlyReports, accounts, hjudged, ?_⟩
  have houtcomes := congrArg Prod.fst hrun
  exact (Summary.mk.inj (Except.ok.inj houtcomes)).symm

end Suite

end RpcConformance
