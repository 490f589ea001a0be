import Mathlib.Algebra.Order.BigOperators.Group.List
import Mathlib.Algebra.Order.Group.Nat
import Mathlib.Algebra.Ring.Nat
import Mathlib.Data.List.Perm.Basic
import RpcConformance.Histogram

/-!
# What a histogram counts

Every value that is added is counted once, in the bucket whose bounds it lies between.  The bounds
are exact numbers here, whether or not they are words: the first bucket has no lower bound and the
last one no upper bound, so each value has one bucket.  Adding leaves the bounds alone, which is why
a value's bucket does not depend on what was added before, and the order does not matter.

## Main results

* `Histogram.bucketOf_eq_iff` — the bucket of a value, by its bounds.
* `Histogram.getElem?_counts_addAll` — the buckets after some values.
* `Histogram.addAll_perm` — the order of the values does not matter.
* `Histogram.counts_every_value_once` — what a histogram holds in the end.
-/

namespace RpcConformance.Histogram

/-! ## Buckets -/

/-- The lower bound of a bucket, and the upper one of the bucket before it. -/
def lowerBound (h : Histogram) (i : Nat) : Nat := h.min + i * h.width

/-- The values that a bucket is for. The first bucket takes what is below its lower bound as well,
and the last one what is above its upper bound. -/
def Takes (h : Histogram) (i value : Nat) : Prop :=
  (i = 0 ∨ h.lowerBound i ≤ value) ∧ (i + 1 = h.counts.length ∨ value < h.lowerBound (i + 1))

instance (h : Histogram) (i value : Nat) : Decidable (h.Takes i value) :=
  inferInstanceAs (Decidable (_ ∧ _))

theorem bucketOf_lt (h : Histogram) (hbuckets : h.counts ≠ []) (value : Nat) :
    h.bucketOf value < h.counts.length := by
  have hpos : 0 < h.counts.length := List.length_pos_iff.mpr hbuckets
  unfold bucketOf
  omega

/-- **The bucket of a value** is the one whose bounds it lies between. -/
theorem bucketOf_eq_iff {h : Histogram} (hwidth : 0 < h.width) {i : Nat} (hi : i < h.counts.length)
    (value : Nat) : h.bucketOf value = i ↔ h.Takes i value := by
  have hfrom : i ≤ (value - h.min) / h.width ↔ i * h.width ≤ value - h.min :=
    Nat.le_div_iff_mul_le hwidth
  have hpast : i + 1 ≤ (value - h.min) / h.width ↔ (i + 1) * h.width ≤ value - h.min :=
    Nat.le_div_iff_mul_le hwidth
  have hstep : (i + 1) * h.width = i * h.width + h.width := Nat.succ_mul i h.width
  have hzero : i = 0 ∨ h.width ≤ i * h.width := by
    by_cases h0 : i = 0
    · exact Or.inl h0
    · exact Or.inr (Nat.le_mul_of_pos_left h.width (by omega))
  unfold bucketOf Takes lowerBound
  generalize (value - h.min) / h.width = steps at hfrom hpast ⊢
  omega

/-! ## One value -/

theorem sum_modify (counts : List Nat) {i : Nat} (h : i < counts.length) :
    (counts.modify i (· + 1)).sum = counts.sum + 1 := by
  induction counts generalizing i with
  | nil => exact absurd h (Nat.not_lt_zero _)
  | cons n rest ih =>
      cases i with
      | zero =>
          rw [List.modify_zero_cons, List.sum_cons, List.sum_cons]
          omega
      | succ i =>
          rw [List.modify_succ_cons, List.sum_cons, List.sum_cons, ih (Nat.lt_of_succ_lt_succ h)]
          omega

/-- A histogram whose buckets are those of another, and that holds some more values. -/
structure Extends (h h' : Histogram) (more : Nat) : Prop where
  min : h'.min = h.min
  width : h'.width = h.width
  length : h'.counts.length = h.counts.length
  count : h'.count = h.count + more
  /-- Every value is in a bucket. -/
  held : h'.counts.sum = h.counts.sum + more

theorem extends_add (h : Histogram) (hbuckets : h.counts ≠ []) (value : Nat) :
    h.Extends (h.add value) 1 :=
  ⟨rfl, rfl, List.length_modify _ _ _, rfl, sum_modify h.counts (h.bucketOf_lt hbuckets value)⟩

/-- A value's bucket does not depend on what was added before. -/
theorem bucketOf_add (h : Histogram) (earlier value : Nat) :
    (h.add earlier).bucketOf value = h.bucketOf value := by
  simp only [bucketOf, add, List.length_modify]

theorem getElem?_counts_add (h : Histogram) (value i : Nat) :
    (h.add value).counts[i]? =
      h.counts[i]?.map fun n => n + if h.bucketOf value = i then 1 else 0 := by
  show (h.counts.modify (h.bucketOf value) (· + 1))[i]? = _
  rw [List.getElem?_modify]
  by_cases hi : h.bucketOf value = i
  · simp [hi]
  · simp [hi]

/-- Two values may be added in either order. -/
theorem add_right_comm (h : Histogram) (a b : Nat) : (h.add a).add b = (h.add b).add a := by
  have hcounts : ((h.add a).add b).counts = ((h.add b).add a).counts := by
    apply List.ext_getElem?
    intro i
    simp only [getElem?_counts_add, bucketOf_add, Option.map_map]
    congr 1
    funext n
    simp only [Function.comp]
    omega
  have hsum : ((h.add a).add b).sum = ((h.add b).add a).sum := by
    simp only [add]
    omega
  have hmax : ((h.add a).add b).max = ((h.add b).add a).max := Nat.max_right_comm h.max a b
  simp only [add] at hcounts hsum hmax ⊢
  rw [hcounts, hsum, hmax]

instance : RightCommutative Histogram.add := ⟨add_right_comm⟩

/-! ## Any number of values -/

/-- **A histogram holds as many values as were added.** -/
theorem extends_addAll (h : Histogram) (hbuckets : h.counts ≠ []) (values : List Nat) :
    h.Extends (h.addAll values) values.length := by
  induction values generalizing h with
  | nil => exact ⟨rfl, rfl, rfl, rfl, rfl⟩
  | cons value rest ih =>
      have hfirst := h.extends_add hbuckets value
      have hbuckets' : (h.add value).counts ≠ [] := by
        rw [← List.length_pos_iff, hfirst.length, List.length_pos_iff]
        exact hbuckets
      have hrest := ih (h.add value) hbuckets'
      refine ⟨hrest.min.trans hfirst.min, hrest.width.trans hfirst.width,
        hrest.length.trans hfirst.length, ?_, ?_⟩
      · show ((h.add value).addAll rest).count = _
        rw [hrest.count, hfirst.count, List.length_cons]
        omega
      · show ((h.add value).addAll rest).counts.sum = _
        rw [hrest.held, hfirst.held, List.length_cons]
        omega

/-- **The buckets after some values**: each counts the values that are its own. -/
theorem getElem?_counts_addAll (h : Histogram) (values : List Nat) (i : Nat) :
    (h.addAll values).counts[i]? =
      h.counts[i]?.map fun n => n + values.countP fun value => h.bucketOf value = i := by
  induction values generalizing h with
  | nil => simp [addAll]
  | cons value rest ih =>
      show ((h.add value).addAll rest).counts[i]? = _
      simp only [ih, bucketOf_add, getElem?_counts_add, Option.map_map, List.countP_cons]
      congr 1
      funext n
      simp only [Function.comp, decide_eq_true_eq]
      omega

/-- The sum stops at the largest word. -/
theorem sum_addAll {h : Histogram} (hsum : h.sum < wordLimit) (values : List Nat) :
    (h.addAll values).sum = Min.min (h.sum + values.sum) (wordLimit - 1) := by
  induction values generalizing h with
  | nil =>
      show h.sum = Min.min (h.sum + 0) (wordLimit - 1)
      omega
  | cons value rest ih =>
      have hadd : (h.add value).sum = Min.min (h.sum + value) (wordLimit - 1) := rfl
      have hrest := ih (h := h.add value) (by omega)
      show ((h.add value).addAll rest).sum = _
      rw [hrest, hadd, List.sum_cons]
      omega

theorem max_addAll (h : Histogram) (values : List Nat) :
    (h.addAll values).max = values.foldl Max.max h.max := by
  induction values generalizing h with
  | nil => rfl
  | cons value rest ih => exact ih (h.add value)

/-- **The order of the values does not matter.** -/
theorem addAll_perm (h : Histogram) {values values' : List Nat} (p : values.Perm values') :
    h.addAll values = h.addAll values' := p.foldl_eq h

/-! ## A filled histogram -/

/-- A histogram that was empty before some values were added. -/
def filled (buckets width min : Nat) (values : List Nat) : Histogram :=
  (linear buckets width min).addAll values

section

variable (buckets width min : Nat) (values : List Nat)

theorem linear_buckets : (linear buckets width min).counts ≠ [] := by
  simp only [linear, ne_eq, List.replicate_eq_nil_iff]
  omega

theorem extends_filled :
    (linear buckets width min).Extends (filled buckets width min values) values.length :=
  extends_addAll _ (linear_buckets buckets width min) values

theorem min_filled : (filled buckets width min values).min = min :=
  (extends_filled buckets width min values).min

theorem width_filled : (filled buckets width min values).width = Max.max width 1 :=
  (extends_filled buckets width min values).width

theorem length_filled : (filled buckets width min values).counts.length = Max.max buckets 1 :=
  (extends_filled buckets width min values).length.trans List.length_replicate

theorem lowerBound_filled (i : Nat) :
    (filled buckets width min values).lowerBound i = min + i * Max.max width 1 := by
  rw [lowerBound, min_filled, width_filled]

/-- Each bucket counts the values that it is for. -/
theorem getElem?_counts_filled {i : Nat} (hi : i < Max.max buckets 1) :
    (filled buckets width min values).counts[i]? =
      some (values.countP fun value => (filled buckets width min values).Takes i value) := by
  have hlength : i < (linear buckets width min).counts.length := by
    simpa only [linear, List.length_replicate] using hi
  have hwidth : 0 < (linear buckets width min).width := by
    simp only [linear]
    omega
  have hempty : (linear buckets width min).counts[i]? = some 0 := by
    simp only [linear, List.getElem?_replicate, if_pos hi]
  have htakes : ∀ value, (filled buckets width min values).Takes i value ↔
      (linear buckets width min).bucketOf value = i := by
    intro value
    have hsame := extends_filled buckets width min values
    rw [bucketOf_eq_iff hwidth hlength, Takes, Takes, lowerBound, lowerBound, lowerBound,
      lowerBound, hsame.min, hsame.width, hsame.length]
  simp only [htakes]
  rw [filled, getElem?_counts_addAll, hempty, Option.map_some, Nat.zero_add]

end

/-- What a histogram of so many buckets of a width says of the values that were added to it. -/
structure Counted (n w min : Nat) (values : List Nat) (h : Histogram) : Prop where
  length : h.counts.length = n
  only : n = 1 → h.counts = [values.length]
  first : 1 < n → h.counts[0]? = some (values.countP fun v => v < min + w)
  middle : ∀ i, 0 < i → i < n - 1 → h.counts[i]? =
    some (values.countP fun v => min + i * w ≤ v ∧ v < min + (i + 1) * w)
  last : 1 < n → h.counts[n - 1]? = some (values.countP fun v => min + (n - 1) * w ≤ v)
  held : h.counts.sum = h.count
  count : h.count = values.length
  sum : h.sum = Min.min values.sum (wordLimit - 1)
  /-- Zero where there are no values. -/
  max : h.max = values.max?.getD 0

theorem counted_filled (buckets width min : Nat) (values : List Nat) :
    Counted (Max.max buckets 1) (Max.max width 1) min values (filled buckets width min values) := by
  have hextends := extends_filled buckets width min values
  have hlength := length_filled buckets width min values
  have hbucket := fun i => getElem?_counts_filled buckets width min values (i := i)
  have hbound := lowerBound_filled buckets width min values
  simp only [Takes, hlength, hbound] at hbucket
  refine ⟨hlength, ?_, ?_, ?_, ?_, ?_, ?_, ?_, ?_⟩
  · intro hone
    obtain ⟨n, hn⟩ : ∃ n, (filled buckets width min values).counts = [n] :=
      List.length_eq_one_iff.mp (hlength.trans hone)
    have hall := hbucket 0 (by omega)
    simp only [hn, hone, Nat.zero_add, true_or, and_self, decide_true, List.countP_true,
      List.getElem?_cons_zero] at hall
    rw [hn, Option.some.inj hall]
  · intro hmany
    have hne : ¬0 + 1 = Max.max buckets 1 := by omega
    simpa [hne] using hbucket 0 (by omega)
  · intro i hpos hi
    have hne : ¬i + 1 = Max.max buckets 1 := by omega
    simpa [hne, Nat.ne_of_gt hpos] using hbucket i (by omega)
  · intro hmany
    have hend : Max.max buckets 1 - 1 + 1 = Max.max buckets 1 := by omega
    have hne : ¬Max.max buckets 1 - 1 = 0 := by omega
    simpa only [hend, hne, true_or, false_or, and_true] using
      hbucket (Max.max buckets 1 - 1) (by omega)
  · have hempty : (linear buckets width min).counts.sum = 0 := by simp [linear]
    rw [hextends.held, hextends.count, hempty]
    rfl
  · rw [hextends.count]
    exact Nat.zero_add _
  · have hpos : 0 < wordLimit := by decide
    have hsum := sum_addAll (h := linear buckets width min) hpos values
    rw [filled, hsum]
    exact congrArg (Min.min · _) (Nat.zero_add _)
  · rw [filled, max_addAll, List.foldl_max]
    cases values.max? with
    | none => rfl
    | some v => exact Nat.zero_max v

/-- Every number of a histogram is a word. -/
structure Fits (h : Histogram) : Prop where
  counts : ∀ n ∈ h.counts, n < wordLimit
  count : h.count < wordLimit
  sum : h.sum < wordLimit
  max : h.max < wordLimit

/-- A histogram cannot leave its range as long as the number of values is a word. -/
theorem fits_filled (buckets width min : Nat) {values : List Nat}
    (hmany : values.length < wordLimit) (hwords : ∀ v ∈ values, v < wordLimit) :
    (filled buckets width min values).Fits := by
  have hcounted := counted_filled buckets width min values
  refine ⟨?_, ?_, ?_, ?_⟩
  · intro n hn
    have hle : n ≤ (filled buckets width min values).counts.sum :=
      List.le_sum_of_mem hn
    rw [hcounted.held, hcounted.count] at hle
    omega
  · rw [hcounted.count]
    exact hmany
  · have hpos : 0 < wordLimit := by decide
    rw [hcounted.sum]
    omega
  · rw [hcounted.max]
    cases hmax : values.max? with
    | none => exact (by decide : 0 < wordLimit)
    | some v => exact hwords v (List.max?_mem hmax)

/-- **Every value is counted once, in the right bucket, in any order.**  A histogram has at least
one bucket, and a width of at least one.  Its only bucket counts every value; where there are more,
the first one counts the values below its upper bound, the last one those from its lower bound on,
and every other one those between its bounds.  The counts add up to the number of values.  The sum
stops at the largest word, and the maximum is the largest value.  The values may be added in any
order, and no number leaves its range as long as there are fewer than `wordLimit` values. -/
theorem counts_every_value_once (buckets width min : Nat) (values : List Nat) :
    Counted (Max.max buckets 1) (Max.max width 1) min values (filled buckets width min values) ∧
    (∀ values', values.Perm values' →
      filled buckets width min values' = filled buckets width min values) ∧
    (values.length < wordLimit → (∀ v ∈ values, v < wordLimit) →
      (filled buckets width min values).Fits) :=
  ⟨counted_filled buckets width min values, fun _ p => (addAll_perm _ p).symm,
    fun hmany hwords => fits_filled buckets width min hmany hwords⟩

/-- Values below the minimum and past the last bound count as well. -/
example : (filled 3 5 2 [1, 2, 7, 6, 11, 12, 100]).counts = [3, 2, 2] := by decide

end RpcConformance.Histogram
