import RpcConformance.Proofs.ConsoleReports
import RpcConformance.Proofs.IndependentRuns

/-!
# Runs on the console

The same scenarios run on the console and in memory.  As long as no event in memory is decisive the
two give the same outcomes.  The run on the console ends within the first scenario that has a
decisive event in memory, whose outcome there is a failure; the run in memory goes on to the last
scenario.

Both runs are led side by side, first through one scenario and then by induction on the list.

## Main results

* `ReportingScenario.runOne_lockstep` — one scenario on both reporters.
* `Suite.consoleTurn`, `Suite.consoleRun` — a scenario and a run on the console, by the accounts
  that a run in memory gives.
-/

namespace RpcConformance

open ReportEvent

/-- A scenario whose function only reports and begins no scenario of its own. -/
structure ReportingScenario extends ScenarioInfo where
  function : Reporting
  quiet : function.NeverBegins

namespace ReportingScenario

/-- The scenario for a type of reporters. -/
def on (ρ : Type) [Reporter ρ] (x : ReportingScenario) : Scenario ρ :=
  ⟨x.toScenarioInfo, fun _ => x.function.perform⟩

theorem onlyReports (x : ReportingScenario) (c : Context) : OnlyReports ((x.on Recorder).run c) :=
  ⟨x.function, x.quiet, rfl⟩

end ReportingScenario

namespace Suite

/-! ## One scenario -/

section

variable {ρ : Type} [Reporter ρ] {c : Context} {s : Scenario ρ} {b after : Bench ρ}

theorem runOne_returned {ended : Option Fatal}
    (h : s.run c { b with reporter := Reporter.begin s.name b.reporter } =
      (Reporting.returned ended, after)) :
    runOne c s b = (.ok (outcomeOf s.toScenarioInfo ended (Reporter.failed after.reporter)),
      cleared after) := by
  cases ended with
  | none =>
      rw [runOne, h]
      rfl
  | some f =>
      rw [runOne, h]
      rfl

theorem runOne_exited {code : Nat}
    (h : s.run c { b with reporter := Reporter.begin s.name b.reporter } =
      (.error (.exited code), after)) :
    runOne c s b = (.error (.exited code), after) := by
  rw [runOne, h]

/-- A run goes on with the other scenarios after one that did not end the program. -/
theorem run_cons_ok {o : ScenarioOutcome} {outcomes : List ScenarioOutcome}
    {rest : List (Scenario ρ)} {last : Bench ρ} (hone : runOne c s b = (.ok o, after))
    (hrest : run c rest after = (.ok ⟨outcomes⟩, last)) :
    run c (s :: rest) b = (.ok ⟨o :: outcomes⟩, last) := by
  simp only [run, runAll, bind, hone] at hrest ⊢
  rcases hall : runAll c rest after with ⟨h | others, b'⟩
  · rw [hall] at hrest
    cases hrest
  · rw [hall] at hrest
    cases hrest
    rfl

theorem run_cons_ended {o : ScenarioOutcome} {h : Halt} {rest : List (Scenario ρ)} {last : Bench ρ}
    (hone : runOne c s b = (.ok o, after)) (hrest : run c rest after = (.error h, last)) :
    run c (s :: rest) b = (.error h, last) := by
  simp only [run, runAll, bind, hone] at hrest ⊢
  rcases hall : runAll c rest after with ⟨h' | others, b'⟩
  · rw [hall] at hrest
    cases hrest
    rfl
  · rw [hall] at hrest
    cases hrest

theorem run_cons_halted {h : Halt} (hone : runOne c s b = (.error h, after))
    (rest : List (Scenario ρ)) : run c (s :: rest) b = (.error h, after) := by
  simp only [run, runAll, bind, hone]

end

end Suite

section

variable {sink : Sink} {l : Bench LineReporter} {r : Bench Recorder}

/-- What comes of one scenario on the console and in memory. -/
inductive ScenarioLockstep (sink : Sink) :
    Except Halt ScenarioOutcome × Bench LineReporter →
    Except Halt ScenarioOutcome × Bench Recorder → Prop
  /-- It has the same outcome on both. -/
  | returns (o : ScenarioOutcome) {l : Bench LineReporter} {r : Bench Recorder}
      (h : Mirrors sink l.reporter r.reporter) : ScenarioLockstep sink (.ok o, l) (.ok o, r)
  /-- The console ends the program within the scenario. -/
  | exits (o : ScenarioOutcome) {l : Bench LineReporter} {r : Bench Recorder}
      (h : Stopped sink l.reporter.lines r.reporter.events) :
      ScenarioLockstep sink (.error (.exited 1), l) (.ok o, r)

/-- **One scenario on both reporters**, with any two contexts, for a function that only reports
does not look at its context. -/
theorem ReportingScenario.runOne_lockstep (x : ReportingScenario) (c c' : Context)
    (h : Mirrors sink l.reporter r.reporter) :
    ScenarioLockstep sink (Suite.runOne c (x.on LineReporter) l)
      (Suite.runOne c' (x.on Recorder) r) := by
  have hstep := x.function.perform_lockstep
    (l := { l with reporter := Reporter.begin x.name l.reporter })
    (r := { r with reporter := Reporter.begin x.name r.reporter }) (h.begin x.name)
  generalize hl : x.function.perform
    { l with reporter := Reporter.begin x.name l.reporter } = onConsole,
    hr : x.function.perform
    { r with reporter := Reporter.begin x.name r.reporter } = inMemory at hstep
  cases hstep with
  | @returns ended l' r' hmirrors =>
      have hfailed : Reporter.failed l'.reporter = Reporter.failed r'.reporter := hmirrors.failed
      rw [Suite.runOne_returned (c := c) (s := x.on LineReporter) hl,
        Suite.runOne_returned (c := c') (s := x.on Recorder) hr, hfailed]
      exact .returns _ hmirrors
  | @exits ended l' r' hstopped =>
      rw [Suite.runOne_exited (c := c) (s := x.on LineReporter) hl,
        Suite.runOne_returned (c := c') (s := x.on Recorder) hr]
      exact .exits _ hstopped

end

namespace Suite

variable {c c' : Context} {sink : Sink} {l : Bench LineReporter} {r : Bench Recorder}

/-- A scenario with a decisive event has failed. -/
theorem Judged.not_passed {s : Scenario Recorder} {a : Account} (h : Judged c s a)
    (hdecided : undecided a.events = false) : a.outcome.passed = false := by
  obtain ⟨ended, -, hverdict⟩ := h.verdict
  rw [undecided, List.all_eq_false] at hdecided
  obtain ⟨e, he, hdecisive⟩ := hdecided
  rw [Bool.eq_false_iff]
  intro hpassed
  have hsuccess : e.kind = .success := (hverdict.passed.mp hpassed).2 e he
  rw [hsuccess] at hdecisive
  exact hdecisive rfl

/-- A scenario on the console, by its account in memory. -/
inductive ConsoleTurn (sink : Sink) (l : Bench LineReporter) (r : Bench Recorder) (a : Account) :
    Except Halt ScenarioOutcome × Bench LineReporter → Prop
  | returns {l' : Bench LineReporter} {r' : Bench Recorder} (hundecided : undecided a.events = true)
      (hlines : l'.reporter.lines = l.reporter.lines ++ a.events.map (rendered sink))
      (hmirrors : Mirrors sink l'.reporter r'.reporter) :
      ConsoleTurn sink l r a (.ok a.outcome, l')
  | exits {l' : Bench LineReporter} (hdecided : undecided a.events = false)
      (hlines : l'.reporter.lines = l.reporter.lines ++ (cutOff a.events).map (rendered sink)) :
      ConsoleTurn sink l r a (.error (.exited 1), l')

theorem consoleTurn {x : ReportingScenario} {a : Account} (ha : Judged c' (x.on Recorder) a)
    (h : Mirrors sink l.reporter r.reporter) (c : Context) :
    ConsoleTurn sink l r a (runOne c (x.on LineReporter) l) := by
  have hstep := x.runOne_lockstep c c' h
  obtain ⟨after, hone, hevents⟩ := runOne_of_ran (ha.alone r)
  rw [hone] at hstep
  generalize runOne c (x.on LineReporter) l = onConsole at hstep ⊢
  cases hstep with
  | @returns o l' r' hmirrors =>
      have hboth := hmirrors.undecided
      rw [hevents, undecided_append, h.undecided, Bool.true_and] at hboth
      refine .returns hboth ?_ hmirrors
      rw [hmirrors.lines, hevents, List.map_append, h.lines]
  | @exits o l' r' hstopped =>
      have hboth := hstopped.not_undecided
      rw [hevents, undecided_append, h.undecided, Bool.true_and] at hboth
      refine .exits hboth ?_
      rw [hstopped.lines_eq, hevents, cutOff_append_of_undecided h.undecided, List.map_append,
        h.lines]

/-! ## All scenarios -/

/-- How scenarios run on a console, by the accounts that a run in memory gives of them. -/
inductive ConsoleRun (c : Context) (sink : Sink) (l : Bench LineReporter) :
    List ReportingScenario → List Account → Except Halt Summary × Bench LineReporter → Prop
  /-- No event is decisive, and the run gives the same outcomes as in memory. -/
  | complete {scenarios : List ReportingScenario} {accounts : List Account}
      {last : Bench LineReporter} (hundecided : ∀ a ∈ accounts, undecided a.events = true)
      (hlines : last.reporter.lines =
        l.reporter.lines ++ (accounts.flatMap (·.events)).map (rendered sink)) :
      ConsoleRun c sink l scenarios accounts (.ok ⟨accounts.map (·.outcome)⟩, last)
  /-- The program ends within the first scenario with a decisive event.  The scenarios before it
  have run to their ends, with the same outcomes as in memory. -/
  | early (first : List ReportingScenario) {x : ReportingScenario} {later : List ReportingScenario}
      (before : List Account) {a : Account} {rest : List Account} {mid last : Bench LineReporter}
      (hlength : first.length = before.length)
      (hundecided : ∀ a' ∈ before, undecided a'.events = true)
      (hdecided : undecided a.events = false)
      (hfirst : run c (first.map (·.on LineReporter)) l = (.ok ⟨before.map (·.outcome)⟩, mid))
      (hwithin : runOne c (x.on LineReporter) mid = (.error (.exited 1), last))
      (hlines : last.reporter.lines =
        l.reporter.lines ++ (before.flatMap (·.events) ++ cutOff a.events).map (rendered sink)) :
      ConsoleRun c sink l (first ++ x :: later) (before ++ a :: rest) (.error (.exited 1), last)

/-- A run after a scenario without a decisive event. -/
theorem ConsoleRun.cons {x : ReportingScenario} {a : Account} {scenarios : List ReportingScenario}
    {accounts : List Account} {l' : Bench LineReporter}
    (hone : runOne c (x.on LineReporter) l = (.ok a.outcome, l'))
    (hundecided : undecided a.events = true)
    (hlines : l'.reporter.lines = l.reporter.lines ++ a.events.map (rendered sink))
    (hrest : ConsoleRun c sink l' scenarios accounts
      (run c (scenarios.map (·.on LineReporter)) l')) :
    ConsoleRun c sink l (x :: scenarios) (a :: accounts)
      (run c ((x :: scenarios).map (·.on LineReporter)) l) := by
  rw [List.map_cons]
  generalize hrun : run c (scenarios.map (·.on LineReporter)) l' = result at hrest
  cases hrest with
  | @complete _ _ last hothers hlast =>
      rw [run_cons_ok hone hrun]
      refine .complete (List.forall_mem_cons.mpr ⟨hundecided, hothers⟩) ?_
      rw [hlast, hlines, List.flatMap_cons, List.map_append, List.append_assoc]
  | @early first x' later before a' rest mid last hlength hothers hdecided hfirst hwithin hlast =>
      rw [run_cons_ended hone hrun]
      refine .early (x :: first) (a :: before) (congrArg (· + 1) hlength)
        (List.forall_mem_cons.mpr ⟨hundecided, hothers⟩) hdecided (run_cons_ok hone hfirst)
        hwithin ?_
      rw [hlast, hlines, List.flatMap_cons, List.append_assoc, List.append_assoc, ← List.map_append]

/-- **A run on the console** completes, or it ends within the first scenario that has a decisive
event in memory. -/
theorem consoleRun {scenarios : List ReportingScenario} {accounts : List Account}
    (h : List.Forall₂ (fun x => Judged c' (x.on Recorder)) scenarios accounts)
    (hmirrors : Mirrors sink l.reporter r.reporter) (c : Context) :
    ConsoleRun c sink l scenarios accounts (run c (scenarios.map (·.on LineReporter)) l) := by
  induction h generalizing l r with
  | nil =>
      refine .complete (fun a ha => absurd ha List.not_mem_nil) ?_
      rw [List.flatMap_nil, List.map_nil, List.append_nil]
  | @cons x a scenarios accounts ha _ ih =>
      have hturn := consoleTurn ha hmirrors c
      generalize hone : runOne c (x.on LineReporter) l = onConsole at hturn
      cases hturn with
      | @returns l' r' hundecided hlines hafter =>
          exact .cons hone hundecided hlines (ih hafter)
      | @exits l' hdecided hlines =>
          rw [List.map_cons, run_cons_halted hone]
          exact .early [] [] rfl (fun a' ha' => absurd ha' List.not_mem_nil)
            hdecided rfl hone hlines

end Suite

end RpcConformance
