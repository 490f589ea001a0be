import Mathlib.Data.List.Basic
import RpcConformance.Proofs.JsonLayout
import RpcConformance.Suite.Summary

/-!
# The report of a summary is unambiguous

The pretty form of JSON is known to be unambiguous, so it is enough that two summaries never become
the same JSON value.  An outcome becomes an object with a member for each of its fields, of which
only the message can be missing, and that is what tells an absent message from an empty one.  The
number of failures is written as what the passing outcomes leave of all, which never falls short.

## Main results

* `toJson_inj` — summaries that become the same JSON value are equal.
* `failedCount_eq_countP` — the difference counts the outcomes that did not pass.
* `report_is_unambiguous` — the text of a report, and the numbers in it.
-/

namespace RpcConformance

theorem Category.name_inj {c d : Category} : c.name = d.name ↔ c = d := by
  constructor
  · intro h
    have hc := read_name c
    rw [h, read_name d] at hc
    exact (Except.ok.inj hc).symm
  · rintro rfl
    rfl

namespace Summary

/-! ## From summaries to JSON -/

/-- The members for a message, which are none where it is absent. -/
theorem messageMembers_inj {m n : Option String}
    (h : (match m with
        | some text => [("message", Json.str text)]
        | none => []) =
      match n with
        | some text => [("message", Json.str text)]
        | none => []) : m = n := by
  cases m with
  | none =>
      cases n with
      | none => rfl
      | some text => cases h
  | some text =>
      cases n with
      | none => cases h
      | some other =>
          cases h
          rfl

theorem outcomeJson_injective : Function.Injective outcomeJson := by
  rintro ⟨name, category, passed, elapsed, message⟩ ⟨name', category', passed', elapsed', message'⟩ h
  simp only [outcomeJson, Json.obj.injEq, List.cons_append, List.nil_append, List.cons.injEq,
    Prod.mk.injEq, true_and, Json.str.injEq, Json.bool.injEq, Json.int.injEq, Int.natCast_inj,
    Category.name_inj] at h
  obtain ⟨rfl, rfl, rfl, rfl, hmessage⟩ := h
  rw [messageMembers_inj hmessage]

/-- **Summaries that become the same JSON value are equal.** -/
theorem toJson_inj {s t : Summary} : s.toJson = t.toJson ↔ s = t := by
  constructor
  · intro h
    simp only [toJson, Json.obj.injEq, List.cons.injEq, Prod.mk.injEq, true_and, Json.arr.injEq,
      and_true] at h
    have houtcomes : s.outcomes = t.outcomes := List.map_injective_iff.mpr outcomeJson_injective h.2.2
    cases s
    cases t
    exact congrArg Summary.mk houtcomes
  · rintro rfl
    rfl

/-! ## The numbers -/

theorem passedCount_eq_countP (s : Summary) : s.passedCount = s.outcomes.countP (·.passed) :=
  List.countP_eq_length_filter.symm

theorem count_verdicts (s : Summary) :
    s.outcomes.countP (·.passed) + s.outcomes.countP (!·.passed) = s.outcomes.length := by
  have hverdict : (fun o : ScenarioOutcome => !o.passed) = fun o => decide (¬ o.passed = true) := by
    funext o
    rw [decide_not, Bool.decide_eq_true]
  rw [hverdict]
  exact (List.length_eq_countP_add_countP _).symm

/-- **What the passing outcomes leave of all are those that did not pass.** -/
theorem failedCount_eq_countP (s : Summary) : s.failedCount = s.outcomes.countP (!·.passed) := by
  have hcount := s.count_verdicts
  rw [failedCount, passedCount_eq_countP]
  omega

theorem passed_iff (s : Summary) : s.passed = true ↔ s.outcomes.countP (!·.passed) = 0 := by
  rw [passed, List.all_eq_true, List.countP_eq_zero]
  simp only [Bool.not_eq_true', Bool.not_eq_false]

/-- **The report of a summary is unambiguous**: its text says which summary it is of.  It starts with
the numbers of the outcomes listed that passed and that did not, which are all of them together, and
the second is zero exactly for a summary that passed. -/
theorem report_is_unambiguous :
    (∀ s t : Summary, s.jsonText = t.jsonText ↔ s = t) ∧
      ∀ s : Summary,
        s.jsonText = (Json.obj [("passed", .int (s.outcomes.countP (·.passed))),
          ("failed", .int (s.outcomes.countP (!·.passed))),
          ("outcomes", .arr (s.outcomes.map outcomeJson))]).prettyText ∧
        s.outcomes.countP (·.passed) + s.outcomes.countP (!·.passed) = s.outcomes.length ∧
        (s.outcomes.countP (!·.passed) = 0 ↔ s.passed = true) := by
  constructor
  · intro s t
    rw [jsonText, jsonText, Json.prettyText_inj, toJson_inj]
  · intro s
    refine ⟨?_, s.count_verdicts, s.passed_iff.symm⟩
    rw [jsonText, toJson, passedCount_eq_countP, failedCount_eq_countP]

end Summary

end RpcConformance
