import Mathlib.Data.List.DropRight
import RpcConformance.Reporter.Recorder

/-!
# The record of a sequence of reports

The reporter in memory keeps the name of the scenario and a mark that it has failed beside its
events, and the beginning of a scenario resets the mark but leaves the events alone.  So the mark is
compared here with the events that were kept since the scenario began: after any reports, from a
reporter that has kept nothing, it says what those events say.

## Main results

* `Report.recorded_concat` — one more report.
* `Report.prefix_recorded` — events are only added.
* `Report.current_recorded` — the name and the mark, by what was reported.
* `Report.record_is_exact_account` — the whole record, and what comes back from a report.
-/

namespace RpcConformance

/-- The reporter after a report. -/
def Reported.after {ρ α : Type} : Reported ρ α → ρ
  | returned _ r => r
  | exited _ r => r

/-- A report to a reporter. -/
inductive Report
  | begin (scenario : String)
  | error (message : String)
  | fatal (message : String)
  | success (message : String)
  | failNow
deriving DecidableEq

namespace Report

/-- Makes a report; a failure comes back from one that ends the scenario. -/
def perform {ρ : Type} [Reporter ρ] : Report → ρ → Reported ρ (Option Fatal)
  | begin scenario, r => .returned none (Reporter.begin scenario r)
  | error message, r => .returned none (Reporter.error message r)
  | fatal message, r =>
    match Reporter.fatal message r with
    | .returned f r => .returned (some f) r
    | .exited code r => .exited code r
  | success message, r =>
    match Reporter.success message r with
    | .returned () r => .returned none r
    | .exited code r => .exited code r
  | failNow, r =>
    match Reporter.failNow r with
    | .returned f r => .returned (some f) r
    | .exited code r => .exited code r

/-- The name of the scenario that a report begins. -/
def begun? : Report → Option String
  | begin scenario => some scenario
  | _ => none

/-- The report says something of the scenario that is under way. -/
def tells (x : Report) : Bool := x.begun?.isNone

/-- The name of the scenario that was begun last, empty before the first. -/
def latestName (history : List Report) : String :=
  (history.reverse.findSome? begun?).getD ""

/-- The reports up to the latest beginning of a scenario. -/
def upToBegin (history : List Report) : List Report := history.rdropWhile tells

/-- A recorder after some reports. -/
def recorded (history : List Report) : Recorder := history.foldl (fun r x => (x.perform r).after) {}

/-- The events kept since the latest beginning of a scenario. -/
def sinceBegin (history : List Report) : List ReportEvent :=
  (recorded history).events.drop (recorded (upToBegin history)).events.length

/-- An event since the latest beginning is no success. -/
def FailedSince (history : List Report) : Prop :=
  ∃ e ∈ sinceBegin history, e.kind ≠ .success

/-- What a report adds to the record of a scenario that has failed or not, and the failure that
comes back from it. -/
inductive Enters (scenario : String) (failed : Prop) :
    Report → List ReportEvent → Option Fatal → Prop
  | begin (next : String) : Enters scenario failed (.begin next) [] none
  | error (message : String) :
      Enters scenario failed (.error message) [⟨scenario, .error, message⟩] none
  | fatal (message : String) :
      Enters scenario failed (.fatal message) [⟨scenario, .fatal, message⟩] (some ⟨message⟩)
  | success (message : String) (h : ¬failed) :
      Enters scenario failed (.success message) [⟨scenario, .success, message⟩] none
  | lateSuccess (message : String) (h : failed) :
      Enters scenario failed (.success message)
        [⟨scenario, .failure, message ++ " (after earlier errors)"⟩] none
  | failNow :
      Enters scenario failed .failNow [⟨scenario, .failure, "failed"⟩]
        (some ⟨scenario ++ " failed"⟩)

/-! ## One more report -/

variable {history : List Report} {x : Report}

theorem begin_or_tells (x : Report) : (∃ scenario, x = begin scenario) ∨ x.tells = true := by
  cases x with
  | begin scenario => exact Or.inl ⟨scenario, rfl⟩
  | _ => exact Or.inr rfl

theorem latestName_begin (scenario : String) :
    latestName (history ++ [begin scenario]) = scenario := by
  simp [latestName, begun?, List.findSome?_cons]

theorem latestName_of_tells (h : x.tells = true) :
    latestName (history ++ [x]) = latestName history := by
  have hnone : x.begun? = none := Option.isNone_iff_eq_none.mp h
  simp [latestName, hnone]

theorem upToBegin_begin (scenario : String) :
    upToBegin (history ++ [begin scenario]) = history ++ [begin scenario] :=
  List.rdropWhile_concat_neg tells history (begin scenario) Bool.false_ne_true

theorem upToBegin_of_tells (h : x.tells = true) : upToBegin (history ++ [x]) = upToBegin history :=
  List.rdropWhile_concat_pos tells history x h

theorem recorded_concat (history : List Report) (x : Report) :
    recorded (history ++ [x]) = (x.perform (recorded history)).after :=
  List.foldl_concat ..

theorem recorded_begin (scenario : String) :
    recorded (history ++ [begin scenario]) =
      { recorded history with scenario := scenario, failed := false } :=
  recorded_concat history _

/-- A report on the scenario that is under way is kept as one event. -/
theorem recorded_of_tells (history : List Report) (h : x.tells = true) :
    ∃ kind message, recorded (history ++ [x]) = (recorded history).record kind message := by
  rw [recorded_concat]
  cases x with
  | begin scenario => exact absurd h Bool.false_ne_true
  | error message => exact ⟨.error, message, rfl⟩
  | fatal message => exact ⟨.fatal, message, rfl⟩
  | success message =>
      by_cases hfailed : (recorded history).failed
      · exact ⟨.failure, message ++ afterErrors, if_pos hfailed⟩
      · exact ⟨.success, message, if_neg hfailed⟩
  | failNow => exact ⟨.failure, "failed", rfl⟩

/-! ## All reports -/

theorem recorded_step (history : List Report) (x : Report) :
    (recorded history).events <+: (recorded (history ++ [x])).events ∧
      (recorded (history ++ [x])).events.length =
        (recorded history).events.length + if x.tells then 1 else 0 := by
  rcases begin_or_tells x with ⟨scenario, rfl⟩ | h
  · simp [recorded_begin, tells, begun?]
  · obtain ⟨kind, message, hkept⟩ := recorded_of_tells history h
    simp [hkept, Recorder.record, h]

/-- **Events are only added.** -/
theorem prefix_recorded (history later : List Report) :
    (recorded history).events <+: (recorded (history ++ later)).events := by
  induction later using List.reverseRecOn with
  | nil => simp
  | append_singleton later x ih =>
      rw [← List.append_assoc]
      exact ih.trans (recorded_step _ x).1

/-- **One event for each report** on a scenario that is under way. -/
theorem length_recorded (history : List Report) :
    (recorded history).events.length = history.countP tells := by
  induction history using List.reverseRecOn with
  | nil => rfl
  | append_singleton history x ih =>
      rw [(recorded_step history x).2, ih, List.countP_append, List.countP_singleton]

theorem upToBegin_prefix (history : List Report) : upToBegin history <+: history :=
  List.rdropWhile_prefix tells history

theorem sinceBegin_begin (scenario : String) : sinceBegin (history ++ [begin scenario]) = [] := by
  rw [sinceBegin, upToBegin_begin, List.drop_length]

theorem sinceBegin_record {kind : ReportKind} {message : String} (h : x.tells = true)
    (hkept : recorded (history ++ [x]) = (recorded history).record kind message) :
    sinceBegin (history ++ [x]) =
      sinceBegin history ++ [⟨(recorded history).scenario, kind, message⟩] := by
  obtain ⟨later, hlater⟩ := upToBegin_prefix history
  have hle : (recorded (upToBegin history)).events.length ≤ (recorded history).events.length := by
    have hprefix := prefix_recorded (upToBegin history) later
    rw [hlater] at hprefix
    exact hprefix.length_le
  rw [sinceBegin, upToBegin_of_tells h, hkept, Recorder.record, List.drop_append_of_le_length hle]
  rfl

/-- What a recorder remembers beside its events is what was reported. -/
structure Current (history : List Report) : Prop where
  name : (recorded history).scenario = latestName history
  mark : (recorded history).failed = true ↔ FailedSince history

/-- **The name and the mark** are those of the scenario under way. -/
theorem current_recorded (history : List Report) : Current history := by
  induction history using List.reverseRecOn with
  | nil => exact ⟨rfl, by simp [recorded, FailedSince, sinceBegin]⟩
  | append_singleton history x ih =>
      rcases begin_or_tells x with ⟨scenario, rfl⟩ | h
      · constructor
        · rw [recorded_begin, latestName_begin]
        · simp [recorded_begin, FailedSince, sinceBegin_begin]
      · obtain ⟨kind, message, hkept⟩ := recorded_of_tells history h
        constructor
        · rw [hkept, latestName_of_tells h]
          exact ih.name
        · have hmark := ih.mark
          simp only [FailedSince] at hmark ⊢
          rw [hkept, sinceBegin_record h hkept]
          simp [Recorder.record, hmark, or_and_right, exists_or]

/-- **One more report** returns, and enters what its recorder's name and mark say. -/
theorem perform_enters (x : Report) (r : Recorder) :
    ∃ added answer, Enters r.scenario (r.failed = true) x added answer ∧
      x.perform r = .returned answer (x.perform r).after ∧
      (x.perform r).after.events = r.events ++ added := by
  cases x with
  | begin scenario => exact ⟨[], none, .begin scenario, rfl, (List.append_nil _).symm⟩
  | error message => exact ⟨_, _, .error message, rfl, rfl⟩
  | fatal message => exact ⟨_, _, .fatal message, rfl, rfl⟩
  | success message =>
      by_cases hfailed : r.failed = true
      · refine ⟨_, _, .lateSuccess message hfailed, rfl, ?_⟩
        simp [perform, Reported.after, Reporter.success, hfailed, Recorder.record, afterErrors]
      · refine ⟨_, _, .success message hfailed, rfl, ?_⟩
        simp [perform, Reported.after, Reporter.success, hfailed, Recorder.record]
  | failNow => exact ⟨_, _, .failNow, rfl, rfl⟩

/-- The failures of a record are its events but for the successes, in their order. -/
theorem count_failures (r : Recorder) (e : ReportEvent) :
    r.failures.count e = if e.kind = .success then 0 else r.events.count e := by
  by_cases h : e.kind = .success
  · rw [if_pos h]
    exact List.count_eq_zero.mpr fun hmem => by simp [Recorder.failures, h] at hmem
  · rw [if_neg h]
    exact List.count_filter (by simpa using h)

/-- **The record of any reports** from a recorder that has kept nothing.  Events are only added, one
for each report but none for a beginning.  The mark says whether an event since the latest
beginning is no success, the failures are all events but the successes, in their order, and every
further report returns and enters what it should under the name of the latest beginning. -/
theorem record_is_exact_account (history : List Report) :
    (∀ later, (recorded history).events <+: (recorded (history ++ later)).events) ∧
      (recorded history).events.length = history.countP tells ∧
      (Reporter.failed (recorded history) = true ↔ FailedSince history) ∧
      (recorded history).failures.Sublist (recorded history).events ∧
      (∀ e, (recorded history).failures.count e =
        if e.kind = .success then 0 else (recorded history).events.count e) ∧
      ∀ x : Report, ∃ added answer,
        Enters (latestName history) (FailedSince history) x added answer ∧
          x.perform (recorded history) = .returned answer (recorded (history ++ [x])) ∧
          (recorded (history ++ [x])).events = (recorded history).events ++ added := by
  have hnow : Current history := current_recorded history
  refine ⟨prefix_recorded history, length_recorded history, hnow.mark, List.filter_sublist,
    count_failures (recorded history), ?_⟩
  intro x
  have henters := perform_enters x (recorded history)
  rw [hnow.name, propext hnow.mark, ← recorded_concat] at henters
  exact henters

end Report

end RpcConformance
