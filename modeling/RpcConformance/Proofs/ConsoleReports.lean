import Mathlib.Data.List.Forall2
import Mathlib.Data.List.TakeWhile
import RpcConformance.Proofs.ReportScripts
import RpcConformance.Reporter.Lines

/-!
# The console as a reporter in memory that is cut off

A reporter on the console and one in memory are given the same functions, one after another.  Up to
the first decisive report — a fatal failure, a success after an error, or an end without a message —
the two agree, and the console has written one line for each event of the other.  The decisive
report is the last line of the console, which ends the program within it, while the reporter in
memory goes on.

The two are led side by side through one function by induction on what it reports, and then through
all functions by induction on their list.  Scripts are such functions.

## Main results

* `Reporting.perform_recorder` — in memory every function returns, and all earlier events are kept.
* `Reporting.perform_lockstep` — one function on both reporters.
* `console_is_cut_short` — all functions, and all scripts, on two fresh reporters.
-/

namespace RpcConformance

/-! ## Events as lines -/

namespace ReportKind

/-- A report of the kind ends the program on the console. -/
def decisive : ReportKind → Bool
  | error => false
  | success => false
  | fatal => true
  | failure => true

/-- The first word of the line of a report. -/
def heading : ReportKind → String
  | error => "ERROR"
  | success => "SUCCESS"
  | fatal => "FAIL"
  | failure => "FAIL"

/-- How the console begins the line of a report. -/
def label : ReportKind → LineReporter.Label
  | error => .error
  | success => .success
  | fatal => .fail
  | failure => .fail

end ReportKind

namespace ReportEvent

/-- An event as a line of the console. -/
def rendered (sink : Sink) (e : ReportEvent) : OutputLine :=
  let text := e.kind.heading ++ ": " ++ e.scenario ++ ": " ++ e.message
  match sink with
  | .log => .log (if e.kind = .success then .info else .error) text
  | .stdout => .stdout text

/-- No event is decisive. -/
def undecided (events : List ReportEvent) : Bool := events.all (!·.kind.decisive)

/-- The events up to the first decisive one, and that one. -/
def cutOff (events : List ReportEvent) : List ReportEvent :=
  events.takeWhile (!·.kind.decisive) ++ (events.find? (·.kind.decisive)).toList

variable {kept rest : List ReportEvent} {last : ReportEvent}

theorem find?_of_undecided (h : undecided kept = true) : kept.find? (·.kind.decisive) = none := by
  simpa only [undecided, List.all_eq_true, List.find?_eq_none, Bool.not_eq_true,
    Bool.not_eq_true'] using h

theorem cutOff_of_undecided (h : undecided kept = true) : cutOff kept = kept := by
  rw [cutOff, find?_of_undecided h, List.takeWhile_eq_self_iff.mpr (List.all_eq_true.mp h),
    Option.toList_none, List.append_nil]

theorem cutOff_append_of_undecided (h : undecided kept = true) :
    cutOff (kept ++ rest) = kept ++ cutOff rest := by
  rw [cutOff, cutOff, List.takeWhile_append_of_pos (List.all_eq_true.mp h), List.find?_append,
    find?_of_undecided h, Option.none_or, List.append_assoc]

theorem cutOff_append_cons (h : undecided kept = true) (hlast : last.kind.decisive = true) :
    cutOff (kept ++ last :: rest) = kept ++ [last] := by
  rw [cutOff_append_of_undecided h, cutOff, List.takeWhile_cons_of_neg (by simp [hlast]),
    List.find?_cons_of_pos (by exact hlast), List.nil_append, Option.toList_some]

theorem undecided_append (first second : List ReportEvent) :
    undecided (first ++ second) = (undecided first && undecided second) := by
  rw [undecided, List.all_append]
  rfl

end ReportEvent

open ReportEvent Reporting

theorem LineReporter.lines_write (l : LineReporter) (kind : ReportKind) (message : String) :
    (l.write kind.label message).lines =
      l.lines ++ [rendered l.sink ⟨l.scenario, kind, message⟩] := by
  obtain ⟨sink, scenario, failed, lines⟩ := l
  cases sink <;> cases kind <;> rfl

/-! ## Side by side -/

section

variable (sink : Sink)

/-- The console goes on, and has written what the other one keeps. -/
structure Mirrors (l : LineReporter) (r : Recorder) : Prop where
  sink_eq : l.sink = sink
  scenario : l.scenario = r.scenario
  failed : l.failed = r.failed
  lines : l.lines = r.events.map (rendered sink)
  undecided : undecided r.events = true

/-- The lines of a console that has ended the program, and the events that the other one keeps of
the same reports and of later ones. -/
def Stopped (lines : List OutputLine) (events : List ReportEvent) : Prop :=
  ∃ kept last rest, undecided kept = true ∧ last.kind.decisive = true ∧
    events = kept ++ last :: rest ∧ lines = (kept ++ [last]).map (rendered sink)

end

namespace Mirrors

variable {sink : Sink} {l : LineReporter} {r : Recorder}

theorem lines_write (h : Mirrors sink l r) (failed : Bool) (kind : ReportKind) (message : String) :
    ({ l with failed }.write kind.label message).lines =
      (r.record kind message).events.map (rendered sink) := by
  rw [LineReporter.lines_write]
  show l.lines ++ [rendered l.sink (⟨l.scenario, kind, message⟩ : ReportEvent)] =
    (r.events ++ [(⟨r.scenario, kind, message⟩ : ReportEvent)]).map (rendered sink)
  rw [h.lines, h.sink_eq, h.scenario, List.map_append, List.map_singleton]

theorem begin (h : Mirrors sink l r) (scenario : String) :
    Mirrors sink (Reporter.begin scenario l) (Reporter.begin scenario r) :=
  ⟨h.sink_eq, rfl, rfl, h.lines, h.undecided⟩

/-- A report after which the console goes on. -/
theorem write (h : Mirrors sink l r) (kind : ReportKind) (hopen : kind.decisive = false)
    (failed : Bool) (hfailed : failed = (r.failed || kind ≠ .success)) (message : String) :
    Mirrors sink ({ l with failed }.write kind.label message) (r.record kind message) where
  sink_eq := h.sink_eq
  scenario := h.scenario
  failed := hfailed
  lines := h.lines_write failed kind message
  undecided := by
    have hkept := h.undecided
    simp only [ReportEvent.undecided, Recorder.record, List.all_append, List.all_cons, List.all_nil,
      hopen, Bool.not_false, Bool.and_true] at hkept ⊢
    exact hkept

/-- A report within which the console ends the program. -/
theorem stop (h : Mirrors sink l r) (kind : ReportKind) (hdecisive : kind.decisive = true)
    (failed : Bool) (message : String) :
    Stopped sink ({ l with failed }.write kind.label message).lines
      (r.record kind message).events :=
  ⟨r.events, ⟨r.scenario, kind, message⟩, [], h.undecided, hdecisive, rfl,
    h.lines_write failed kind message⟩

end Mirrors

namespace Stopped

variable {sink : Sink} {lines : List OutputLine} {events later : List ReportEvent}

theorem mono (h : Stopped sink lines events) (hlater : events <+: later) :
    Stopped sink lines later := by
  obtain ⟨kept, last, rest, hkept, hlast, rfl, hlines⟩ := h
  obtain ⟨more, rfl⟩ := hlater
  exact ⟨kept, last, rest ++ more, hkept, hlast, List.append_assoc _ _ _, hlines⟩

theorem lines_eq (h : Stopped sink lines events) : lines = (cutOff events).map (rendered sink) := by
  obtain ⟨kept, last, rest, hkept, hlast, rfl, hlines⟩ := h
  rw [hlines, cutOff_append_cons hkept hlast]

theorem not_undecided (h : Stopped sink lines events) : undecided events = false := by
  obtain ⟨kept, last, rest, -, hlast, rfl, -⟩ := h
  simp only [undecided, List.all_append, List.all_cons, hlast, Bool.not_true, Bool.false_and,
    Bool.and_false]

end Stopped

/-! ## One function -/

/-- A function returned, and the reporter in memory keeps some events from before. -/
def ReturnsWith (events : List ReportEvent) (x : Except Halt Unit × Bench Recorder) : Prop :=
  ∃ ended after, x = (returned ended, after) ∧ events <+: after.reporter.events

/-- What comes of one function on the console and on the reporter in memory. -/
inductive Lockstep (sink : Sink) :
    Except Halt Unit × Bench LineReporter → Except Halt Unit × Bench Recorder → Prop
  /-- It ends the same way on both. -/
  | returns (ended : Option Fatal) {l : Bench LineReporter} {r : Bench Recorder}
      (h : Mirrors sink l.reporter r.reporter) : Lockstep sink (returned ended, l) (returned ended, r)
  /-- The console ends the program within a report of the function. -/
  | exits (ended : Option Fatal) {l : Bench LineReporter} {r : Bench Recorder}
      (h : Stopped sink l.reporter.lines r.reporter.events) :
      Lockstep sink (.error (.exited 1), l) (returned ended, r)

theorem ReturnsWith.of_record {r : Recorder} {kind : ReportKind} {message : String}
    {x : Except Halt Unit × Bench Recorder} (h : ReturnsWith (r.record kind message).events x) :
    ReturnsWith r.events x := by
  obtain ⟨ended, after, hx, hevents⟩ := h
  exact ⟨ended, after, hx, (List.prefix_append _ _).trans hevents⟩

theorem Stopped.exits {sink : Sink} {l : Bench LineReporter} {events : List ReportEvent}
    {x : Except Halt Unit × Bench Recorder} (h : Stopped sink l.reporter.lines events)
    (hx : ReturnsWith events x) : Lockstep sink (.error (.exited 1), l) x := by
  obtain ⟨ended, after, rfl, hevents⟩ := hx
  exact .exits ended (h.mono hevents)

namespace Reporting

/-- **In memory every function returns**, and the events before it are kept. -/
theorem perform_recorder (t : Reporting) (b : Bench Recorder) :
    ReturnsWith b.reporter.events (t.perform b) := by
  induction t generalizing b with
  | finished => exact ⟨none, b, rfl, List.prefix_rfl⟩
  | gaveUp f => exact ⟨some f, b, rfl, List.prefix_rfl⟩
  | helper rest ih => exact ih b
  | begin scenario rest ih =>
      exact ih { b with reporter := Reporter.begin scenario b.reporter }
  | error message rest ih =>
      exact (ih { b with reporter := b.reporter.record .error message }).of_record
  | success message rest ih =>
      rw [perform_success]
      exact (ih { b with reporter := b.reporter.record _ _ }).of_record
  | fatal message rest ih =>
      exact (ih _ { b with reporter := b.reporter.record .fatal message }).of_record
  | failNow rest ih =>
      exact (ih _ { b with reporter := b.reporter.record .failure "failed" }).of_record

/-- On the console a success after an error ends the program. -/
theorem perform_success_lines (message : String) (rest : Reporting) (l : Bench LineReporter) :
    (success message rest).perform l =
      if l.reporter.failed then
        (.error (.exited 1),
          { l with reporter := l.reporter.write .fail (message ++ afterErrors) })
      else rest.perform { l with reporter := l.reporter.write .success message } := by
  simp only [perform, ScenarioM.success, ScenarioM.report, Reporter.success, bind]
  cases l.reporter.failed with
  | false => rfl
  | true => rfl

/-- **One function on both reporters** ends the same way, or the console ends the program within
the first decisive report. -/
theorem perform_lockstep (t : Reporting) {sink : Sink} {l : Bench LineReporter}
    {r : Bench Recorder} (h : Mirrors sink l.reporter r.reporter) :
    Lockstep sink (t.perform l) (t.perform r) := by
  induction t generalizing l r with
  | finished => exact .returns none h
  | gaveUp f => exact .returns (some f) h
  | helper rest ih => exact ih h
  | begin scenario rest ih =>
      exact ih (l := { l with reporter := Reporter.begin scenario l.reporter })
        (r := { r with reporter := Reporter.begin scenario r.reporter }) (h.begin scenario)
  | error message rest ih =>
      have hwritten := h.write .error rfl true (Bool.or_true _).symm message
      exact ih (l := { l with reporter := l.reporter.markFailed.write .error message })
        (r := { r with reporter := r.reporter.record .error message }) hwritten
  | success message rest ih =>
      rw [perform_success_lines, perform_success, h.failed]
      cases hfailed : r.reporter.failed with
      | false =>
          have hwritten := h.write .success rfl l.reporter.failed
            (h.failed.trans (Bool.or_false _).symm) message
          exact ih (l := { l with reporter := l.reporter.write .success message })
            (r := { r with reporter := r.reporter.record .success message }) hwritten
      | true =>
          exact Stopped.exits
            (l := { l with reporter := l.reporter.write .fail (message ++ afterErrors) })
            (h.stop .failure rfl l.reporter.failed (message ++ afterErrors))
            (perform_recorder rest
              { r with reporter := r.reporter.record .failure (message ++ afterErrors) })
  -- the rest is performed in memory only, and adds events behind the decisive one
  | fatal message rest ih =>
      exact Stopped.exits
        (l := { l with reporter := l.reporter.markFailed.write .fail message })
        (h.stop .fatal rfl true message)
        (perform_recorder (rest ⟨message⟩)
          { r with reporter := r.reporter.record .fatal message })
  | failNow rest ih =>
      exact Stopped.exits
        (l := { l with reporter := l.reporter.markFailed.write .fail "failed" })
        (h.stop .failure rfl true "failed")
        (perform_recorder (rest ⟨r.reporter.scenario ++ " failed"⟩)
          { r with reporter := r.reporter.record .failure "failed" })

end Reporting

/-! ## Functions one after another -/

/-- What the functions that return give, and what ends the program, if anything does. -/
abbrev Trace (ρ : Type) : Type := List (ReportStep.StepResult ρ) × Option (Halt × Bench ρ)

/-- The bench at the end of a trace that begins with a bench. -/
def Trace.ending {ρ : Type} (b : Bench ρ) (t : Trace ρ) : Bench ρ :=
  match t.2 with
  | some (_, after) => after
  | none => (t.1.getLast?.map (·.after)).getD b

theorem Trace.ending_cons {ρ : Type} (b : Bench ρ) (s : ReportStep.StepResult ρ) (t : Trace ρ) :
    Trace.ending b (s :: t.1, t.2) = t.ending s.after := by
  obtain ⟨results, halted⟩ := t
  cases halted with
  | some h => rfl
  | none =>
      cases results with
      | nil => rfl
      | cons s' results =>
          simp only [ending, List.getLast?_cons, Option.map_some, Option.getD_some]

namespace Reporting

section

variable {ρ : Type} [Reporter ρ]

/-- Performs functions one by one.  A fatal failure ends only its function. -/
def trace : List Reporting → Bench ρ → Trace ρ
  | [], _ => ([], none)
  | t :: rest, b =>
    match t.perform b with
    | (.ok (), b) => (⟨none, b⟩ :: (trace rest b).1, (trace rest b).2)
    | (.error (.fatal f), b) => (⟨some f, b⟩ :: (trace rest b).1, (trace rest b).2)
    | (.error h, b) => ([], some (h, b))

variable {t : Reporting} {b after : Bench ρ}

theorem trace_cons_returned {ended : Option Fatal} (h : t.perform b = (returned ended, after))
    (rest : List Reporting) :
    trace (t :: rest) b = (⟨ended, after⟩ :: (trace rest after).1, (trace rest after).2) := by
  cases ended with
  | none =>
      rw [trace, h]
      rfl
  | some f =>
      rw [trace, h]
      rfl

theorem trace_cons_exited {code : Nat} (h : t.perform b = (.error (.exited code), after))
    (rest : List Reporting) : trace (t :: rest) b = ([], some (.exited code, after)) := by
  rw [trace, h]

end

/-- **In memory all functions return**, and the events before them are kept. -/
theorem trace_recorder (functions : List Reporting) (b : Bench Recorder) :
    (trace functions b).2 = none ∧ (trace functions b).1.length = functions.length ∧
      b.reporter.events <+: (Trace.ending b (trace functions b)).reporter.events := by
  induction functions generalizing b with
  | nil => exact ⟨rfl, rfl, List.prefix_rfl⟩
  | cons t rest ih =>
      obtain ⟨ended, after, hperform, hevents⟩ := perform_recorder t b
      obtain ⟨hreturns, hlength, hrest⟩ := ih after
      rw [trace_cons_returned hperform, Trace.ending_cons]
      exact ⟨hreturns, congrArg (· + 1) hlength, hevents.trans hrest⟩

end Reporting

/-- A function has returned on the console and on the reporter in memory with the same failure, the
same mark of failure, and a line for each event. -/
structure Agrees (sink : Sink) (onConsole : ReportStep.StepResult LineReporter)
    (inMemory : ReportStep.StepResult Recorder) : Prop where
  fatal : onConsole.fatal = inMemory.fatal
  failed : Reporter.failed onConsole.after.reporter = Reporter.failed inMemory.after.reporter
  lines : onConsole.after.reporter.lines = inMemory.after.reporter.events.map (rendered sink)

/-- No event has been decisive by the end of a function. -/
def ReportStep.StepResult.undecided (s : ReportStep.StepResult Recorder) : Bool :=
  ReportEvent.undecided s.after.reporter.events

/-- The trace of some functions on the console is their trace on the reporter in memory, cut short
within the function that makes the first decisive report. -/
structure CutShort (sink : Sink) (functions : Nat) (l : Bench LineReporter) (r : Bench Recorder)
    (onConsole : Trace LineReporter) (inMemory : Trace Recorder) : Prop where
  /-- In memory, every function returns. -/
  returns : inMemory.2 = none ∧ inMemory.1.length = functions
  /-- On the console, those return that come before the first decisive event. -/
  agree : List.Forall₂ (Agrees sink) onConsole.1 (inMemory.1.takeWhile (·.undecided))
  /-- The next one ends the program, with exit code 1. -/
  exits : onConsole.2.map (·.1) =
    if inMemory.1.all (·.undecided) then none else some (.exited 1)
  lines : (onConsole.ending l).reporter.lines =
    (cutOff (inMemory.ending r).reporter.events).map (rendered sink)

/-- Functions on two reporters of which the one has written what the other keeps. -/
theorem Mirrors.trace_cutShort {sink : Sink} (functions : List Reporting) {l : Bench LineReporter}
    {r : Bench Recorder} (h : Mirrors sink l.reporter r.reporter) :
    CutShort sink functions.length l r (Reporting.trace functions l)
      (Reporting.trace functions r) := by
  induction functions generalizing l r with
  | nil =>
      refine ⟨⟨rfl, rfl⟩, .nil, rfl, ?_⟩
      show l.reporter.lines = (cutOff r.reporter.events).map (rendered sink)
      rw [cutOff_of_undecided h.undecided, h.lines]
  | cons t rest ih =>
      have hstep := t.perform_lockstep h
      generalize hl : t.perform l = onConsole, hr : t.perform r = inMemory at hstep
      cases hstep with
      | @returns ended l' r' hmirrors =>
          have hrest := ih hmirrors
          rw [Reporting.trace_cons_returned hl, Reporting.trace_cons_returned hr]
          have hundecided : ReportStep.StepResult.undecided ⟨ended, r'⟩ = true :=
            hmirrors.undecided
          refine ⟨⟨hrest.returns.1, congrArg (· + 1) hrest.returns.2⟩, ?_, ?_, ?_⟩
          · rw [List.takeWhile_cons_of_pos hundecided]
            exact .cons ⟨rfl, hmirrors.failed, hmirrors.lines⟩ hrest.agree
          · rw [List.all_cons, hundecided, Bool.true_and]
            exact hrest.exits
          · rw [Trace.ending_cons, Trace.ending_cons]
            exact hrest.lines
      | @exits ended l' r' hstopped =>
          obtain ⟨hreturns, hlength, hlater⟩ := Reporting.trace_recorder rest r'
          have hdecided : ReportStep.StepResult.undecided ⟨ended, r'⟩ = false :=
            hstopped.not_undecided
          rw [Reporting.trace_cons_exited hl, Reporting.trace_cons_returned hr]
          refine ⟨⟨hreturns, congrArg (· + 1) hlength⟩, ?_, ?_, ?_⟩
          · rw [List.takeWhile_cons_of_neg (by rw [hdecided]; decide)]
            exact .nil
          · rw [List.all_cons, hdecided, Bool.false_and]
            rfl
          · rw [Trace.ending_cons]
            exact (hstopped.mono hlater).lines_eq

/-- A script is traced as the functions that its steps are. -/
theorem ReportStep.trace_eq {ρ : Type} [Reporter ρ] (steps : List ReportStep) (b : Bench ρ) :
    ReportStep.trace steps b = Reporting.trace (steps.map reporting) b := by
  induction steps generalizing b with
  | nil => rfl
  | cons s rest ih =>
      have hrest : (ReportStep.trace rest : Bench ρ → Trace ρ) =
          Reporting.trace (rest.map reporting) := funext ih
      rewrite [List.map_cons, Reporting.trace, ReportStep.trace, perform_reporting, hrest]
      rfl

/-- **The console is a reporter in memory that is cut off at the first decisive report.**  Given
any functions that only report, in particular the steps of a script, a fresh reporter on the console
ends the program, with exit code 1, within the one in which a fresh reporter in memory keeps its
first fatal failure or failure, and otherwise not at all.  It writes the events up to that one as
lines, and those functions that return agree on both. -/
theorem console_is_cut_short (sink : Sink) :
    (∀ functions : List Reporting,
      CutShort sink functions.length (Bench.idle { sink }) (Bench.idle {})
        (Reporting.trace functions (Bench.idle { sink }))
        (Reporting.trace functions (Bench.idle {}))) ∧
    ∀ steps : List ReportStep,
      CutShort sink steps.length (Bench.idle { sink }) (Bench.idle {})
        (ReportStep.trace steps (Bench.idle { sink }))
        (ReportStep.trace steps (Bench.idle {})) := by
  have hfresh : Mirrors sink { sink } {} := ⟨rfl, rfl, rfl, rfl, rfl⟩
  have hfunctions : ∀ functions : List Reporting,
      CutShort sink functions.length (Bench.idle { sink }) (Bench.idle {})
        (Reporting.trace functions (Bench.idle { sink }))
        (Reporting.trace functions (Bench.idle {})) :=
    fun functions => Mirrors.trace_cutShort functions hfresh
  refine ⟨hfunctions, fun steps => ?_⟩
  rw [ReportStep.trace_eq, ReportStep.trace_eq, ← List.length_map ReportStep.reporting]
  exact hfunctions (steps.map ReportStep.reporting)

/-- A success after an error is the last line, whatever comes after it. -/
example :
    (ReportStep.trace [.begin "sample", .error "late", .success "done", .fatal "gone"]
        (Bench.idle { sink := .stdout : LineReporter })).2.map (·.2.reporter.lines) =
      some [.stdout "ERROR: sample: late", .stdout "FAIL: sample: done (after earlier errors)"] :=
  rfl

end RpcConformance
