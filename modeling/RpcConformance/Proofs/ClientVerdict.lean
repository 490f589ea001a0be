import RpcConformance.CommandLine.ClientProgram
import RpcConformance.Proofs.ConsoleRuns

/-!
# The verdict of the client program

The client program runs scenarios with the reporter on the console.  Its exit code is the verdict of
the same scenarios in memory: 0 where every one of them passes there, and 1 otherwise, whether the
console ended the program within a scenario or only the summary tells of a failure.  With exit code
2 it ends where it cannot begin, and then what the scenarios do has no part in its end.

## Main results

* `Selection.select_on` — the same scenarios are selected, whatever the reporter.
* `ClientProgram.execute_of_settings` — how the program ends, and what it has logged as skipped.
* `ClientProgram.exit_of_consoleRun` — the exit code of a run.
* `ClientProgram.verdict_is_that_in_memory` — the exit codes of the program.
-/

namespace RpcConformance

/-! ## The same selection for all reporters -/

namespace Selection

/-- The selected scenarios that can be run. -/
def choose (selection : Selection) (capabilities : Capabilities)
    (known : List ReportingScenario) : Except SelectionError (List ReportingScenario) :=
  match selection.names.find? fun name =>
      !(known.map (·.toScenarioInfo)).any (·.name == name) with
  | some name => .error (.unknownScenario name)
  | none => .ok ((known.filter fun x => selection.selects x.toScenarioInfo).filter
      fun x => capabilities.meets x.toScenarioInfo)

theorem sift_fst {ρ : Type} (c : Capabilities) (l : List (Scenario ρ)) :
    (sift c l).1 = l.filter fun x => c.meets x.toScenarioInfo := by
  induction l with
  | nil => rfl
  | cons x rest ih => cases h : c.meets x.toScenarioInfo <;> simp [sift, h, ih]

theorem select_on (ρ : Type) [Reporter ρ] (selection : Selection) (capabilities : Capabilities)
    (known : List ReportingScenario) :
    selection.select (known.map (·.on ρ)) capabilities =
      (selection.choose capabilities known).map (List.map (·.on ρ)) := by
  have hunknown : selection.unknownName? (known.map (·.on ρ)) =
      selection.names.find? fun name =>
        !(known.map (·.toScenarioInfo)).any (·.name == name) := by
    simp only [unknownName?, List.any_map]
    rfl
  rw [select, selectLogging, choose, hunknown]
  cases selection.names.find? _ with
  | some name => rfl
  | none =>
      simp only [sift_fst, selected, List.filter_map]
      rfl

/-- **Whether a selection fails is a matter of names**, and not of what scenarios do. -/
theorem select_alike (ρ : Type) [Reporter ρ] (selection : Selection) (capabilities : Capabilities)
    (infos : List ScenarioInfo) :
    (∃ e, ∀ known : List ReportingScenario, known.map (·.toScenarioInfo) = infos →
      selection.select (known.map (·.on ρ)) capabilities = .error e) ∨
    ∀ known : List ReportingScenario, known.map (·.toScenarioInfo) = infos →
      ∃ selected, selection.select (known.map (·.on ρ)) capabilities = .ok selected := by
  cases hunknown : selection.names.find? fun name => !infos.any (·.name == name) with
  | some name =>
      refine .inl ⟨.unknownScenario name, fun known hinfo => ?_⟩
      rw [select_on, choose, hinfo, hunknown]
      rfl
  | none =>
      refine .inr fun known hinfo => ?_
      rw [select_on, choose, hinfo, hunknown]
      exact ⟨_, rfl⟩

end Selection

namespace CommandLine.ClientProgram

open Suite ReportEvent

variable {known chosen : List ReportingScenario} {arguments : List String} {m : ClientMachine}
  {s : ClientSettings} {client : Client}

/-! ## Before the first scenario -/

section

variable {scenarios selected : List (Scenario LineReporter)} {f : ClientFailure} {config : Target}

theorem start_of_selected (hruns : s.list = false) :
    start (.ok selected) s m = (serverConfig s m.stdin).bind fun config =>
      (connect config m.network).bind fun client => .ok (runWith s m client selected) := by
  rw [start, hruns]
  rfl

theorem start_of_unconfigured (hruns : s.list = false)
    (hconfig : serverConfig s m.stdin = .error f) : start (.ok selected) s m = .error f := by
  rw [start_of_selected hruns, hconfig]
  rfl

theorem start_of_unconnected (hruns : s.list = false)
    (hconfig : serverConfig s m.stdin = .ok config)
    (hclient : connect config m.network = .error f) : start (.ok selected) s m = .error f := by
  rw [start_of_selected hruns, hconfig, Except.bind, hclient]
  rfl

theorem start_of_connected (hruns : s.list = false)
    (hconfig : serverConfig s m.stdin = .ok config)
    (hclient : connect config m.network = .ok client) :
    start (.ok selected) s m = .ok (runWith s m client selected) := by
  rw [start_of_selected hruns, hconfig, Except.bind, hclient]
  rfl

/-- With settings, the program ends as what it selects makes it end, and has logged what it skips. -/
theorem execute_of_settings (hs : ClientSettings.ofArguments arguments = .ok s) :
    execute scenarios arguments m =
      ⟨concluded (start (s.selection.select scenarios s.capabilities) s m),
        (s.selection.selectLogging scenarios s.capabilities).2⟩ := by
  rw [execute, hs]
  rfl

theorem runFrom_of_settings (hs : ClientSettings.ofArguments arguments = .ok s) :
    runFrom scenarios arguments m =
      concluded (start (s.selection.select scenarios s.capabilities) s m) := by
  rw [runFrom, execute_of_settings hs]

end

/-- The program runs some of the scenarios that it knows. -/
structure GetsToRun (known : List ReportingScenario) (arguments : List String) (m : ClientMachine)
    (s : ClientSettings) (chosen : List ReportingScenario) (client : Client) : Prop where
  settings : ClientSettings.ofArguments arguments = .ok s
  /-- Whatever the reporter, these scenarios are selected. -/
  selected : ∀ (ρ : Type) [Reporter ρ],
    s.selection.select (known.map (·.on ρ)) s.capabilities = .ok (chosen.map (·.on ρ))
  runs : s.list = false
  connected : ∃ config, serverConfig s m.stdin = .ok config ∧ connect config m.network = .ok client

/-- Something keeps the program from running scenarios. -/
inductive FailsToStart (known : List ReportingScenario) (arguments : List String)
    (m : ClientMachine) : Prop
  | usage {e : UsageError} (h : ClientSettings.ofArguments arguments = .error e)
      (hhelp : e ≠ .helpAsked)
  | selection {s : ClientSettings} {e : SelectionError}
      (hs : ClientSettings.ofArguments arguments = .ok s)
      (h : ∀ (ρ : Type) [Reporter ρ],
        s.selection.select (known.map (·.on ρ)) s.capabilities = .error e)
  | descriptor {s : ClientSettings} {f : ClientFailure}
      (hs : ClientSettings.ofArguments arguments = .ok s) (hruns : s.list = false)
      (h : serverConfig s m.stdin = .error f)
  | connection {s : ClientSettings} {config : Target} {f : ClientFailure}
      (hs : ClientSettings.ofArguments arguments = .ok s) (hruns : s.list = false)
      (hconfig : serverConfig s m.stdin = .ok config) (h : connect config m.network = .error f)

/-- The program is only asked for help, or for a list of scenarios that it can give. -/
inductive OnlyTells (known : List ReportingScenario) (arguments : List String) : Prop
  | help (h : ClientSettings.ofArguments arguments = .error .helpAsked)
  | list {s : ClientSettings} {chosen : List ReportingScenario}
      (hs : ClientSettings.ofArguments arguments = .ok s) (hlist : s.list = true)
      (hselected : ∀ (ρ : Type) [Reporter ρ],
        s.selection.select (known.map (·.on ρ)) s.capabilities = .ok (chosen.map (·.on ρ)))

/-- The program has written no report, and what the scenarios do has no part in its end. -/
structure NoneBegun (known : List ReportingScenario) (arguments : List String)
    (m : ClientMachine) : Prop where
  silent : (runFrom (known.map (·.on LineReporter)) arguments m).stdout = "" ∧
    (runFrom (known.map (·.on LineReporter)) arguments m).log.length ≤ 1
  untouched : ∀ known' : List ReportingScenario,
    known'.map (·.toScenarioInfo) = known.map (·.toScenarioInfo) →
      runFrom (known'.map (·.on LineReporter)) arguments m =
        runFrom (known.map (·.on LineReporter)) arguments m

/-- **The program runs, or it cannot start, or it is not asked to run.** -/
theorem runs_or_fails_or_tells (known : List ReportingScenario) (arguments : List String)
    (m : ClientMachine) :
    (∃ s chosen client, GetsToRun known arguments m s chosen client) ∨
      FailsToStart known arguments m ∨ OnlyTells known arguments := by
  cases hs : ClientSettings.ofArguments arguments with
  | error e =>
      by_cases hhelp : e = .helpAsked
      · rw [hhelp] at hs
        exact .inr (.inr (.help hs))
      · exact .inr (.inl (.usage hs hhelp))
  | ok s =>
      cases hchosen : s.selection.choose s.capabilities known with
      | error e =>
          refine .inr (.inl (.selection (e := e) hs fun ρ _ => ?_))
          rw [Selection.select_on, hchosen]
          rfl
      | ok chosen =>
          have hselected : ∀ (ρ : Type) [Reporter ρ],
              s.selection.select (known.map (·.on ρ)) s.capabilities =
                .ok (chosen.map (·.on ρ)) := by
            intro ρ _
            rw [Selection.select_on, hchosen]
            rfl
          cases hlist : s.list with
          | true => exact .inr (.inr (.list hs hlist hselected))
          | false =>
              cases hconfig : serverConfig s m.stdin with
              | error f => exact .inr (.inl (.descriptor hs hlist hconfig))
              | ok config =>
                  cases hclient : connect config m.network with
                  | error f => exact .inr (.inl (.connection hs hlist hconfig hclient))
                  | ok client =>
                      exact .inl ⟨s, chosen, client, hs, hselected, hlist, config, hconfig, hclient⟩

/-- A program that gets to run ends as the run does. -/
theorem GetsToRun.runFrom_eq (h : GetsToRun known arguments m s chosen client) :
    runFrom (known.map (·.on LineReporter)) arguments m =
      ended s (Suite.run (context s m client) (chosen.map (·.on LineReporter)) (bench s m)) := by
  obtain ⟨config, hconfig, hclient⟩ := h.connected
  rw [runFrom_of_settings h.settings, h.selected LineReporter,
    start_of_connected h.runs hconfig hclient]
  rfl

/-- Where selected scenarios cannot be started for one reason, no scenarios of these names can. -/
theorem start_alike (infos : List ScenarioInfo) {f : ClientFailure}
    (h : ∀ selected, start (.ok selected) s m = .error f) :
    ∃ f', ∀ known : List ReportingScenario, known.map (·.toScenarioInfo) = infos →
      start (s.selection.select (known.map (·.on LineReporter)) s.capabilities) s m =
        .error f' := by
  rcases s.selection.select_alike LineReporter s.capabilities infos with ⟨e, herror⟩ | hok
  · refine ⟨.selection e, fun known hinfo => ?_⟩
    rw [herror known hinfo]
    rfl
  · refine ⟨f, fun known hinfo => ?_⟩
    obtain ⟨selected, hselected⟩ := hok known hinfo
    rw [hselected]
    exact h selected

/-- A program that cannot start logs why, which does not depend on what scenarios do. -/
theorem FailsToStart.runFrom_eq (h : FailsToStart known arguments m) :
    ∃ log, log.length ≤ 1 ∧ ∀ known' : List ReportingScenario,
      known'.map (·.toScenarioInfo) = known.map (·.toScenarioInfo) →
        runFrom (known'.map (·.on LineReporter)) arguments m = ⟨2, "", log⟩ := by
  have hfault : (∃ e, e ≠ UsageError.helpAsked ∧ ClientSettings.ofArguments arguments = .error e) ∨
      ∃ s f, ClientSettings.ofArguments arguments = .ok s ∧ ∀ known' : List ReportingScenario,
        known'.map (·.toScenarioInfo) = known.map (·.toScenarioInfo) →
          start (s.selection.select (known'.map (·.on LineReporter)) s.capabilities) s m =
            .error f := by
    cases h with
    | @usage e hs hhelp => exact .inl ⟨e, hhelp, hs⟩
    | @selection s e hs hselected =>
        rcases s.selection.select_alike LineReporter s.capabilities
          (known.map (·.toScenarioInfo)) with ⟨e', herror⟩ | hok
        · refine .inr ⟨s, .selection e', hs, fun known' hinfo => ?_⟩
          rw [herror known' hinfo]
          rfl
        · obtain ⟨selected, hok⟩ := hok known rfl
          rw [hselected LineReporter] at hok
          cases hok
    | @descriptor s f hs hruns hconfig =>
        obtain ⟨f', hstart⟩ := start_alike (known.map (·.toScenarioInfo))
          fun selected => start_of_unconfigured hruns hconfig
        exact .inr ⟨s, f', hs, hstart⟩
    | @connection s config f hs hruns hconfig hclient =>
        obtain ⟨f', hstart⟩ := start_alike (known.map (·.toScenarioInfo))
          fun selected => start_of_unconnected hruns hconfig hclient
        exact .inr ⟨s, f', hs, hstart⟩
  rcases hfault with ⟨e, hhelp, hs⟩ | ⟨s, f, hs, hstart⟩
  · refine ⟨[], Nat.zero_le 1, fun known' _ => ?_⟩
    rw [runFrom, execute, hs]
    cases e with
    | helpAsked => exact absurd rfl hhelp
    | _ => rfl
  · refine ⟨[ProgramEnd.logged .error (name ++ ": " ++ f.message)], Nat.le_refl 1,
      fun known' hinfo => ?_⟩
    rw [runFrom_of_settings hs, hstart known' hinfo]
    rfl

theorem FailsToStart.noneBegun (h : FailsToStart known arguments m) :
    NoneBegun known arguments m := by
  obtain ⟨log, hlength, heq⟩ := h.runFrom_eq
  have hknown := heq known rfl
  refine ⟨?_, fun known' hinfo => (heq known' hinfo).trans hknown.symm⟩
  rw [hknown]
  exact ⟨rfl, hlength⟩

theorem OnlyTells.exit (h : OnlyTells known arguments) (m : ClientMachine) :
    (runFrom (known.map (·.on LineReporter)) arguments m).exit = 0 := by
  cases h with
  | help h =>
      rw [runFrom, execute, h]
  | @list s chosen hs hlist hselected =>
      rw [runFrom_of_settings hs, hselected LineReporter, start, if_pos hlist]
      rfl

/-! ## The verdict -/

theorem accounts_of_reporting (scenarios : List ReportingScenario) (c : Context) :
    ∃ accounts, List.Forall₂ (fun x => Judged c (x.on Recorder)) scenarios accounts := by
  induction scenarios with
  | nil => exact ⟨[], .nil⟩
  | cons x rest ih =>
      obtain ⟨a, ha⟩ := judged_of_onlyReports (x.onlyReports c)
      obtain ⟨accounts, haccounts⟩ := ih
      exact ⟨a :: accounts, .cons ha haccounts⟩

/-- **The exit code of a run** is the verdict of the accounts. -/
theorem exit_of_consoleRun {c c' : Context} {sink : Sink} {l : Bench LineReporter}
    {scenarios : List ReportingScenario} {accounts : List Account}
    {result : Except Halt Summary × Bench LineReporter}
    (h : ConsoleRun c sink l scenarios accounts result)
    (hjudged : List.Forall₂ (fun x => Judged c' (x.on Recorder)) scenarios accounts) :
    (ended s result).exit = if (Summary.mk (accounts.map (·.outcome))).passed then 0 else 1 := by
  cases h with
  | complete hundecided hlines => rfl
  | @early first x later before a rest mid last hlength hundecided hdecided hfirst hwithin hlines =>
      have hrest := List.forall₂_drop first.length hjudged
      rw [List.drop_left, hlength, List.drop_left] at hrest
      have ha : Judged c' (x.on Recorder) a := (List.forall₂_cons.mp hrest).1
      have hfailed : (Summary.mk ((before ++ a :: rest).map (·.outcome))).passed = false := by
        rw [Summary.passed, List.all_eq_false]
        refine ⟨a.outcome, List.mem_map_of_mem (List.mem_append_right _ List.mem_cons_self), ?_⟩
        rw [ha.not_passed hdecided]
        decide
      rw [hfailed]
      rfl

/-- What comes of the chosen scenarios in memory, with some context, and in the program. -/
structure SameVerdict (s : ClientSettings) (m : ClientMachine) (client : Client)
    (chosen : List ReportingScenario) (c : Context) (accounts : List Account) (p : ProgramEnd) :
    Prop where
  judged : List.Forall₂ (fun x => Judged c (x.on Recorder)) chosen accounts
  /-- Every run in memory gives these accounts. -/
  inMemory : ∀ b, Ran c (chosen.map (·.on Recorder)) accounts b
  /-- The run on the console completes, or ends within the first scenario with a fatal failure or a
  failure among its events. -/
  onConsole : ConsoleRun (context s m client) (sink s) (bench s m) chosen accounts
    (Suite.run (context s m client) (chosen.map (·.on LineReporter)) (bench s m))
  ends : p = ended s
    (Suite.run (context s m client) (chosen.map (·.on LineReporter)) (bench s m))
  exit : p.exit = if (Summary.mk (accounts.map (·.outcome))).passed then 0 else 1

theorem GetsToRun.sameVerdict (h : GetsToRun known arguments m s chosen client) (c : Context) :
    ∃ accounts, SameVerdict s m client chosen c accounts
      (runFrom (known.map (·.on LineReporter)) arguments m) := by
  obtain ⟨accounts, hjudged⟩ := accounts_of_reporting chosen c
  have hfresh : Mirrors (sink s) (bench s m).reporter {} := ⟨rfl, rfl, rfl, rfl, rfl⟩
  have hconsole := consoleRun (r := Bench.idle {}) hjudged hfresh (context s m client)
  refine ⟨accounts, hjudged, ?_, hconsole, h.runFrom_eq, ?_⟩
  · exact ran_of_judged (List.forall₂_map_left_iff.mpr hjudged)
  · rw [h.runFrom_eq]
    exact exit_of_consoleRun hconsole hjudged

/-- **The exit code is the verdict of the same run in memory.**  A program that gets to run its
scenarios ends with exit code 0 if they all pass in memory, and with 1 otherwise; where the console
ends it early, it does so within the first scenario with a fatal failure or a failure among its
events in memory.  With exit code 2 it ends exactly where its arguments, the selection, the
descriptor or the connection fail, and then no scenario is begun. -/
theorem verdict_is_that_in_memory (known : List ReportingScenario) (arguments : List String)
    (m : ClientMachine) :
    ((∃ s chosen client, GetsToRun known arguments m s chosen client) ∨
      FailsToStart known arguments m ∨ OnlyTells known arguments) ∧
    (∀ s chosen client, GetsToRun known arguments m s chosen client → ∀ c, ∃ accounts,
      SameVerdict s m client chosen c accounts
        (runFrom (known.map (·.on LineReporter)) arguments m)) ∧
    ((runFrom (known.map (·.on LineReporter)) arguments m).exit = 2 ↔
      FailsToStart known arguments m) ∧
    (FailsToStart known arguments m → NoneBegun known arguments m) := by
  have hcases := runs_or_fails_or_tells known arguments m
  refine ⟨hcases, fun s chosen client h c => h.sameVerdict c, ⟨fun hexit => ?_, fun h => ?_⟩,
    FailsToStart.noneBegun⟩
  · rcases hcases with ⟨s, chosen, client, h⟩ | h | h
    · obtain ⟨accounts, hverdict⟩ := h.sameVerdict (context s m client)
      have hcode := hverdict.exit
      rw [hexit] at hcode
      split at hcode <;> cases hcode
    · exact h
    · rw [h.exit m] at hexit
      cases hexit
  · obtain ⟨log, -, heq⟩ := h.runFrom_eq
    rw [heq known rfl]

namespace VerdictSample

/-- Two scenarios: the console ends the program in the first one, which goes on after an error, and
does not begin the other one. -/
def scenarios : List ReportingScenario :=
  [⟨⟨"errs", .status, []⟩, .error "not quite" (.success "done" .finished), trivial⟩,
    ⟨⟨"passes", .errors, []⟩, .success "ok" .finished, trivial⟩]

def target : Target := { host := "127.0.0.1", port := 8080 }

def options : List String := ["--host", "127.0.0.1", "--format=json"]

def settings : ClientSettings := { host := "127.0.0.1", format := .json }

def machine : ClientMachine := ⟨"", ⟨some 8080⟩, .scripted []⟩

theorem getsToRun : GetsToRun scenarios options machine settings scenarios ⟨target, true⟩ where
  settings := by
    have hread : (ClientSettings.ofArguments options).toOption = some settings := by
      decide +kernel
    cases hsettings : ClientSettings.ofArguments options with
    | error e =>
        rw [hsettings] at hread
        cases hread
    | ok s =>
        rw [hsettings] at hread
        exact congrArg Except.ok (Option.some.inj hread)
  selected ρ _ := by
    rw [Selection.select_on]
    rfl
  runs := rfl
  connected := by
    have hfault : target.fault? = none := by decide +kernel
    have hreached : Network.reaches ⟨some 8080⟩ target = true := by decide +kernel
    refine ⟨target, rfl, ?_⟩
    rw [connect, hfault]
    exact if_pos hreached

end VerdictSample

open VerdictSample in
theorem sampleProgram_verdict :
    GetsToRun scenarios options machine settings scenarios ⟨target, true⟩ ∧
      (∃ accounts, SameVerdict settings machine ⟨target, true⟩ scenarios
        ⟨⟨target, true⟩, .extended, {}, target, ⟨none⟩⟩ accounts
        (runFrom (scenarios.map (·.on LineReporter)) options machine)) ∧
      runFrom (scenarios.map (·.on LineReporter)) options machine =
        ⟨1, "", [(.error, "ERROR: errs: not quite"),
          (.error, "FAIL: errs: done (after earlier errors)")]⟩ :=
  ⟨getsToRun, (verdict_is_that_in_memory scenarios options machine).2.1 _ _ _ getsToRun _,
    by decide +kernel⟩

end CommandLine.ClientProgram

end RpcConformance
