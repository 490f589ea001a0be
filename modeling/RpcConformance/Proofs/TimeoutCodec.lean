import RpcConformance.Proofs.TimeoutGrammar

/-!
# Writing and reading timeouts

Writing counts the finest unit whose count fits eight digits and drops the rest, so what is read
back is at most what was written.  A unit other than the finest is taken only where the next finer
one has more than eight digits; units are at most a thousand times as long as the next finer ones,
so what is dropped is less than a hundred-thousandth of the whole.  Every unit divides every longer
one, so a whole number of any unit is a whole number of the finer one that is taken, and nothing is
dropped.

## Main results

* `parse_encode` — what was written is read as the part of it that is `written`.
* `written_le`, `written_close`, `written_of_fits`, `written_of_long` — how much that is.
-/

namespace RpcConformance.Timeout

namespace TimeUnit

/-! ## Units -/

theorem mem_all (u : TimeUnit) : u ∈ all := by
  cases u <;> decide

theorem nanos_pos (u : TimeUnit) : 0 < u.nanos := by
  cases u <;> decide

/-- The units stand in the order of their lengths. -/
theorem all_sorted : all.Pairwise fun u v => u.nanos < v.nanos := by decide

/-- Every unit divides the longer ones. -/
theorem nanos_dvd {u v : TimeUnit} (h : u.nanos ≤ v.nanos) : u.nanos ∣ v.nanos := by
  cases u <;> cases v <;> revert h <;> decide

/-- A unit is at most a thousand times as long as the next finer one. -/
theorem finer (u : TimeUnit) :
    u.nanos = 1 ∨ ∃ v : TimeUnit, v.nanos < u.nanos ∧ u.nanos ≤ 1000 * v.nanos := by
  cases u with
  | nanosecond => exact Or.inl rfl
  | microsecond => exact Or.inr ⟨nanosecond, by decide⟩
  | millisecond => exact Or.inr ⟨microsecond, by decide⟩
  | second => exact Or.inr ⟨millisecond, by decide⟩
  | minute => exact Or.inr ⟨second, by decide⟩
  | hour => exact Or.inr ⟨minute, by decide⟩

/-- Letters are text. -/
theorem isTextChar_letter (u : TimeUnit) : HeaderValue.IsTextChar u.letter := by
  unfold HeaderValue.IsTextChar
  cases u <;> decide

end TimeUnit

/-- So many hours. -/
def hours (n : Nat) : Duration := ⟨n * TimeUnit.hour.nanos⟩

/-! ## What is read -/

/-- What is read is a count of some unit that eight digits can hold. -/
theorem counts_of_parse {s : String} {d : Duration} (h : parse s = some d) :
    ∃ n, ∃ u : TimeUnit, n ≤ maxCount ∧ d = ⟨n * u.nanos⟩ := by
  obtain ⟨digits, unit, hs, rfl⟩ := parse_eq_some_iff.mp h
  exact ⟨_, unit, value_le_maxCount hs.digit hs.length_le, rfl⟩

/-! ## Which unit is taken -/

/-- A unit that is taken fits, and no shorter one does. -/
theorem unitFor?_eq_some {d : Duration} {u : TimeUnit} (h : unitFor? d = some u) :
    d.nanos / u.nanos ≤ maxCount ∧
      ∀ v : TimeUnit, v.nanos < u.nanos → maxCount < d.nanos / v.nanos := by
  obtain ⟨hfits, before, after, hall, hbefore⟩ := List.find?_eq_some_iff_append.mp h
  refine ⟨of_decide_eq_true hfits, fun v hv => ?_⟩
  have hsorted := TimeUnit.all_sorted
  rw [hall, List.pairwise_append] at hsorted
  have hmem := TimeUnit.mem_all v
  rw [hall, List.mem_append, List.mem_cons] at hmem
  rcases hmem with hmem | rfl | hmem
  · have hnot := hbefore v hmem
    simp only [Bool.not_eq_true', decide_eq_false_iff_not] at hnot
    omega
  · omega
  · have hlater := (List.pairwise_cons.mp hsorted.2.1).1 v hmem
    omega

theorem unitFor?_eq_none_iff {d : Duration} :
    unitFor? d = none ↔ hours (maxCount + 1) ≤ d := by
  have hlong : hours (maxCount + 1) ≤ d ↔ maxCount < d.nanos / TimeUnit.hour.nanos :=
    (Nat.le_div_iff_mul_le TimeUnit.hour.nanos_pos).symm
  rw [hlong, unitFor?, List.find?_eq_none]
  constructor
  · intro h
    have hhour := h .hour (TimeUnit.mem_all _)
    simp only [decide_eq_true_eq] at hhour
    omega
  · intro h u _
    have hle : d.nanos / TimeUnit.hour.nanos ≤ d.nanos / u.nanos :=
      Nat.div_le_div_left u.nanos_le_hour u.nanos_pos
    simp only [decide_eq_true_eq]
    omega

/-! ## Writing -/

/-- The part of a duration that is written. -/
def written (d : Duration) : Duration := ⟨(counted d).1 * (counted d).2.nanos⟩

theorem counted_of_some {d : Duration} {u : TimeUnit} (h : unitFor? d = some u) :
    counted d = (d.nanos / u.nanos, u) := by
  rw [counted, h]

theorem counted_of_none {d : Duration} (h : unitFor? d = none) :
    counted d = (maxCount, .hour) := by
  rw [counted, h]

theorem counted_le (d : Duration) : (counted d).1 ≤ maxCount := by
  cases h : unitFor? d with
  | none =>
      rewrite [counted_of_none h]
      exact Nat.le_refl maxCount
  | some u =>
      rw [counted_of_some h]
      exact (unitFor?_eq_some h).1

/-- **What is written spells a timeout.** -/
theorem spells_encode (d : Duration) :
    Spells (encode d) (Decimal.digits (counted d).1) (counted d).2 where
  text := by rw [encode, String.toList_ofList]
  nonempty := Decimal.digits_ne_nil _
  length_le := by
    have hcount := counted_le d
    exact Decimal.length_digits_le (by decide) (Nat.lt_succ_of_le hcount)
  digit _ := Decimal.isDigit_of_mem_digits

/-- **What was written is read as the part of it that is written.** -/
theorem parse_encode (d : Duration) : parse (encode d) = some (written d) :=
  parse_eq_some_iff.mpr ⟨_, _, spells_encode d, by rw [Decimal.value_digits]; rfl⟩

/-- A written timeout may travel as a header value. -/
theorem ofAscii_encode (d : Duration) :
    HeaderValue.ofAscii (encode d) = .ok (.ofText (encode d)) := by
  apply HeaderValue.ofAscii_of_textChars
  intro c hc
  have hs := spells_encode d
  rw [hs.text, List.mem_append, List.mem_singleton] at hc
  rcases hc with hdigit | rfl
  · have hdigit := hs.digit c hdigit
    simp only [Decimal.isDigit, Bool.and_eq_true, decide_eq_true_eq] at hdigit
    exact Or.inr (by omega)
  · exact TimeUnit.isTextChar_letter _

/-! ## How much is written -/

/-- Nothing is added. -/
theorem written_le (d : Duration) : written d ≤ d := by
  show (counted d).1 * (counted d).2.nanos ≤ d.nanos
  cases h : unitFor? d with
  | none =>
      have hlong : (maxCount + 1) * TimeUnit.hour.nanos ≤ d.nanos := unitFor?_eq_none_iff.mp h
      rw [counted_of_none h]
      show maxCount * TimeUnit.hour.nanos ≤ d.nanos
      exact Nat.le_trans (Nat.mul_le_mul_right _ (Nat.le_succ maxCount)) hlong
  | some u =>
      rw [counted_of_some h]
      exact Nat.div_mul_le_self d.nanos u.nanos

/-- Less than one unit is dropped. -/
theorem dropped_lt {d : Duration} {u : TimeUnit} (h : unitFor? d = some u) :
    d.nanos - (written d).nanos < u.nanos := by
  have hwritten : (written d).nanos = d.nanos / u.nanos * u.nanos := by
    rw [written, counted_of_some h]
  have hmod : d.nanos % u.nanos < u.nanos := Nat.mod_lt _ u.nanos_pos
  have hdiv : d.nanos / u.nanos * u.nanos + d.nanos % u.nanos = d.nanos := by
    rw [Nat.mul_comm]
    exact Nat.div_add_mod _ _
  omega

/-- Below the longest timeout at most a hundred-thousandth is dropped: what is dropped is less
than a unit, and the whole is more than eight digits of the next finer one. -/
theorem written_close {d : Duration} (h : d < hours (maxCount + 1)) :
    100000 * (d.nanos - (written d).nanos) ≤ d.nanos := by
  cases hu : unitFor? d with
  | none =>
      have hlong : hours (maxCount + 1) ≤ d := unitFor?_eq_none_iff.mp hu
      exact absurd hlong (Nat.not_le.mpr h)
  | some u =>
      have hdropped := dropped_lt hu
      rcases u.finer with hone | ⟨v, hv, hratio⟩
      · omega
      · have hcount : maxCount < d.nanos / v.nanos := (unitFor?_eq_some hu).2 v hv
        have hwhole : (maxCount + 1) * v.nanos ≤ d.nanos :=
          (Nat.le_div_iff_mul_le v.nanos_pos).mp hcount
        have hmax : maxCount + 1 = 100000 * 1000 := rfl
        rw [hmax] at hwhole
        omega

/-- A count of some unit that fits eight digits is written as it is. -/
theorem written_of_fits {n : Nat} {u : TimeUnit} (h : n ≤ maxCount) :
    written ⟨n * u.nanos⟩ = ⟨n * u.nanos⟩ := by
  have hcount : n * u.nanos / u.nanos = n := Nat.mul_div_cancel n u.nanos_pos
  cases hv : unitFor? ⟨n * u.nanos⟩ with
  | none =>
      have hlong : (maxCount + 1) * TimeUnit.hour.nanos ≤ n * u.nanos :=
        unitFor?_eq_none_iff.mp hv
      have hshort : n * u.nanos ≤ maxCount * TimeUnit.hour.nanos :=
        Nat.mul_le_mul h u.nanos_le_hour
      have hless : maxCount * TimeUnit.hour.nanos < (maxCount + 1) * TimeUnit.hour.nanos :=
        Nat.mul_lt_mul_of_pos_right (Nat.lt_succ_self maxCount) TimeUnit.hour.nanos_pos
      omega
  | some v =>
      have hle : v.nanos ≤ u.nanos := by
        by_contra hlt
        have hmore := (unitFor?_eq_some hv).2 u (by omega)
        simp only [hcount] at hmore
        omega
      have hdvd : v.nanos ∣ n * u.nanos := Nat.dvd_mul_left_of_dvd (TimeUnit.nanos_dvd hle) n
      rw [written, counted_of_some hv]
      exact congrArg Duration.mk (Nat.div_mul_cancel hdvd)

/-- The longest timeouts are all written as the largest count of hours. -/
theorem written_of_long {d : Duration} (h : hours (maxCount + 1) ≤ d) :
    written d = hours maxCount := by
  rw [written, counted_of_none (unitFor?_eq_none_iff.mpr h)]
  rfl

end RpcConformance.Timeout
