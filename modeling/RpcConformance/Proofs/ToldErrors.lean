import RpcConformance.Reporter.Recorder
import RpcConformance.Scenario.Basic

/-!
# Procedures that only report errors

An error does not end a scenario, so a check is a procedure that reports some errors and gives its
value all the same.  What such procedures report one after another is the list of all their
messages.

## Main results

* `ScenarioM.Tells.bind` — one procedure after another.
* `Bench.told_recorder` — what a recorder keeps of errors.
-/

namespace RpcConformance

section Told

variable {ρ : Type} [Reporter ρ]

/-- A bench after errors have been reported. -/
def Bench.told (b : Bench ρ) (messages : List String) : Bench ρ :=
  { b with reporter := messages.foldl (fun r message => Reporter.error message r) b.reporter }

@[simp] theorem Bench.told_nil (b : Bench ρ) : b.told [] = b := rfl

theorem Bench.told_told (b : Bench ρ) (first second : List String) :
    (b.told first).told second = b.told (first ++ second) := by
  simp only [Bench.told, List.foldl_append]

/-- What a recorder keeps of errors: an event for each, and the mark that there were some. -/
theorem Bench.told_recorder (b : Bench Recorder) (messages : List String) :
    (b.told messages).reporter =
      { b.reporter with
        failed := b.reporter.failed || !messages.isEmpty
        events := b.reporter.events ++
          messages.map fun message => ⟨b.reporter.scenario, .error, message⟩ } := by
  induction messages generalizing b with
  | nil => simp
  | cons message rest ih =>
      have hfirst : (b.told (message :: rest)).reporter =
          (Bench.told { b with reporter := b.reporter.record .error message } rest).reporter := rfl
      rw [hfirst, ih]
      simp [Recorder.record]

namespace ScenarioM

variable {α β : Type}

/-- From every bench, the procedure gives the value, and does nothing but report the errors. -/
def Tells (x : ScenarioM ρ α) (a : α) (messages : List String) : Prop :=
  ∀ b, x b = (.ok a, b.told messages)

theorem tells_pure (a : α) : Tells (pure a : ScenarioM ρ α) a [] := fun _ => rfl

theorem tells_error (message : String) :
    Tells (error message : ScenarioM ρ Unit) () [message] := fun _ => rfl

/-- **One procedure after another** reports the errors of both. -/
theorem Tells.bind {x : ScenarioM ρ α} {a : α} {first : List String} (hx : Tells x a first)
    {f : α → ScenarioM ρ β} {c : β} {second : List String} (hf : Tells (f a) c second) :
    Tells (x >>= f) c (first ++ second) := by
  intro b
  have hfa := hf (b.told first)
  rw [Bench.told_told] at hfa
  simp only [Bind.bind, hx b, hfa]

theorem tells_checkEq [DecidableEq β] (show_ : β → String) (actual expected : β) (what : String) :
    Tells (checkEq show_ actual expected what : ScenarioM ρ Unit) ()
      (if actual = expected then []
        else [mismatchMessage what (show_ actual) (show_ expected)]) := by
  unfold checkEq
  by_cases h : actual = expected
  · rw [if_pos h, if_pos h]
    exact tells_pure ()
  · rw [if_neg h, if_neg h]
    exact tells_error _

end ScenarioM

end Told

end RpcConformance
