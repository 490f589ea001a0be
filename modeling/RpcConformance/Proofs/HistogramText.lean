import RpcConformance.Proofs.Delimiters
import RpcConformance.Proofs.HistogramCounts
import RpcConformance.Proofs.Numerals

/-!
# Histograms as text

A histogram is shown as a header line and a row for each bucket, with the bounds of the bucket and
its count.  The bounds are computed row by row in words: first the product of the index and the
width, then the lower bound, then the upper one.  The upper bound of a row is the lower bound of the
next, and it is more than the product there, so the sum leaves its range before a product can.

What is shown is found again by reading the lines, so the statements are about the printed numbers.

## Main results

* `Histogram.rows_of_fits`, `Histogram.rows_of_overflow` — when the rows can be computed.
* `Histogram.Row.read?_rowText` — a printed row is read back.
* `Histogram.tabulates_filled` — what the rows say of the values.
* `Histogram.render_fails_iff_bound_overflows` — when a histogram can be shown, and how.
-/

namespace RpcConformance

/-! ## Cells -/

namespace Decimal

theorem notMem_padded_digits {c : Char} (hblank : c ≠ ' ') (hdigit : isDigit c = false)
    (width n : Nat) : c ∉ padLeft width (digits n) := by
  intro hc
  rcases List.mem_append.mp hc with hpad | hnumeral
  · exact hblank (List.eq_of_mem_replicate hpad)
  · exact notMem_digits hdigit n hnumeral

/-- The blanks before a numeral are left out. -/
theorem dropWhile_padded_digits (width n : Nat) (rest : List Char) :
    (padLeft width (digits n) ++ rest).dropWhile (· = ' ') = digits n ++ rest := by
  have hblanks : ∀ c ∈ List.replicate (width - (digits n).length) ' ',
      decide (c = ' ') = true := fun c hc => decide_eq_true (List.eq_of_mem_replicate hc)
  obtain ⟨d, ds, hds⟩ := List.exists_cons_of_ne_nil (digits_ne_nil n)
  have hne : ' ' ≠ d := by
    have hblank := notMem_digits (c := ' ') (by decide) n
    rw [hds] at hblank
    exact List.ne_of_not_mem_cons hblank
  rw [padLeft, List.append_assoc, List.dropWhile_append_of_pos hblanks, hds, List.cons_append,
    List.dropWhile_cons_of_neg (by simpa using hne.symm)]

end Decimal

/-- A value with two decimals has only digits and a point. -/
theorem Binary64.notMem_twoPlaces {c : Char} (hpoint : c ≠ '.') (hdigit : Decimal.isDigit c = false)
    (x : Binary64) : c ∉ x.twoPlaces := by
  have hchar : ∀ d, d < 10 → c ≠ Decimal.digitChar d := by
    intro d hd heq
    rw [heq, Decimal.isDigit_digitChar hd] at hdigit
    cases hdigit
  simp only [twoPlaces, List.mem_append, List.mem_cons, List.not_mem_nil, or_false, not_or]
  exact ⟨Decimal.notMem_digits hdigit _, hpoint, hchar _ (by omega), hchar _ (by omega)⟩

namespace Histogram

/-! ## Rows -/

/-- What a row shows of a bucket: its bounds, of which the last row lacks the upper one, and its
count. -/
structure Row where
  low : Nat
  high : Option Nat
  count : Nat
deriving DecidableEq

/-- The value lies in the interval of the row. -/
def Row.Spans (r : Row) (value : Nat) : Prop :=
  r.low ≤ value ∧ ∀ high ∈ r.high, value < high

instance (r : Row) (value : Nat) : Decidable (r.Spans value) :=
  inferInstanceAs (Decidable (_ ∧ _))

@[simp] theorem Row.spans_none {low count value : Nat} :
    (Row.mk low none count).Spans value ↔ low ≤ value := by
  simp [Spans]

@[simp] theorem Row.spans_some {low high count value : Nat} :
    (Row.mk low (some high) count).Spans value ↔ low ≤ value ∧ value < high := by
  simp [Spans]

/-- The upper bound of a row as it is shown. -/
def upperText : Option Nat → List Char
  | some high => Decimal.padLeft 4 (Decimal.digits high)
  | none => "inf".toList

/-- The line of a row, without its end. -/
def rowText (h : Histogram) (r : Row) : List Char := (h.rowLine r.low r.high r.count).dropLast

/-- The header line, without its end. -/
def headerText (h : Histogram) : List Char := h.headerLine.dropLast

theorem rowLine_cells (h : Histogram) (r : Row) :
    h.rowLine r.low r.high r.count = '[' :: Decimal.padLeft 4 (Decimal.digits r.low) ++ [',', ' ']
      ++ upperText r.high ++ [')', ' ', ' '] ++ Decimal.padLeft 6 (Decimal.digits r.count)
      ++ [' ', ' '] ++ Decimal.padLeft 6 (h.percent r.count) ++ ['%'] ++ ['\n'] := by
  rw [List.append_assoc _ ['%'] ['\n']]
  cases hhigh : r.high with
  | none => rfl
  | some high => rfl

theorem rowLine_eq (h : Histogram) (r : Row) :
    h.rowLine r.low r.high r.count = h.rowText r ++ ['\n'] := by
  rw [rowText, rowLine_cells, List.dropLast_concat]

theorem rowText_eq (h : Histogram) (r : Row) :
    h.rowText r = '[' :: Decimal.padLeft 4 (Decimal.digits r.low) ++ ',' :: ' ' ::
      (upperText r.high ++ ')' :: ' ' :: ' ' :: (Decimal.padLeft 6 (Decimal.digits r.count) ++
        ' ' :: ' ' :: (Decimal.padLeft 6 (h.percent r.count) ++ ['%']))) := by
  rw [rowText, rowLine_cells, List.dropLast_concat]
  simp

theorem headerLine_eq (h : Histogram) : h.headerLine = h.headerText ++ ['\n'] := by
  have hbreak : h.headerLine = _ ++ ['\n'] := rfl
  rw [headerText, hbreak, List.dropLast_concat]

theorem notMem_percent {c : Char} (hpoint : c ≠ '.') (hdigit : Decimal.isDigit c = false)
    (h : Histogram) (count : Nat) : c ∉ h.percent count := by
  unfold percent
  split
  · exact Binary64.notMem_twoPlaces hpoint hdigit _
  · exact Binary64.notMem_twoPlaces hpoint hdigit _

theorem notMem_upperText {c : Char} (hblank : c ≠ ' ') (hdigit : Decimal.isDigit c = false)
    (hinf : c ∉ "inf".toList) (high : Option Nat) : c ∉ upperText high := by
  cases high with
  | none => exact hinf
  | some high => exact Decimal.notMem_padded_digits hblank hdigit 4 high

theorem newline_notMem_rowText (h : Histogram) (r : Row) : '\n' ∉ h.rowText r := by
  have hlow := Decimal.notMem_padded_digits (c := '\n') (by decide) (by decide) 4 r.low
  have hcount := Decimal.notMem_padded_digits (c := '\n') (by decide) (by decide) 6 r.count
  have hupper := notMem_upperText (c := '\n') (by decide) (by decide) (by decide) r.high
  have hpercent : '\n' ∉ Decimal.padLeft 6 (h.percent r.count) := by
    intro hmem
    rcases List.mem_append.mp hmem with hpad | hshare
    · exact absurd (List.eq_of_mem_replicate hpad) (by decide)
    · exact notMem_percent (by decide) (by decide) h r.count hshare
  rw [rowText_eq]
  simp [hlow, hcount, hupper, hpercent]

theorem newline_notMem_headerText (h : Histogram) : '\n' ∉ h.headerText := by
  have hcount := Decimal.notMem_digits (c := '\n') (by decide)
  have hmean : '\n' ∉ h.mean := by
    unfold mean
    split
    · exact Binary64.notMem_twoPlaces (by decide) (by decide) _
    · exact Binary64.notMem_twoPlaces (by decide) (by decide) _
  have hbreak : h.headerLine = _ ++ ['\n'] := rfl
  rw [headerText, hbreak, List.dropLast_concat]
  simp [hcount, hmean]

/-! ## Reading a row -/

/-- The number in a cell, behind blanks. -/
def cell? (cell : List Char) : Option Nat := Decimal.value? (cell.dropWhile (· = ' '))

/-- The upper bound in a cell, which may be missing. -/
def upperCell? (cell : List Char) : Option (Option Nat) :=
  if cell.dropWhile (· = ' ') = "inf".toList then some none else (cell? cell).map some

/-- Reads the bounds and the count of a row: the lower bound ends at a comma, the upper one at a
bracket, and the count at a blank. -/
def Row.read? (line : List Char) : Option Row :=
  let behindLow := (line.dropWhile (· ≠ ',')).drop 1
  let behindHigh := (behindLow.dropWhile (· ≠ ')')).drop 1
  match cell? ((line.drop 1).takeWhile (· ≠ ',')), upperCell? (behindLow.takeWhile (· ≠ ')')),
    cell? ((behindHigh.dropWhile (· = ' ')).takeWhile (· ≠ ' ')) with
  | some low, some high, some count => some ⟨low, high, count⟩
  | _, _, _ => none

theorem cell?_padded_digits (width n : Nat) :
    cell? (Decimal.padLeft width (Decimal.digits n)) = some n := by
  have hblanks := Decimal.dropWhile_padded_digits width n []
  rw [List.append_nil, List.append_nil] at hblanks
  rw [cell?, hblanks, Decimal.value?_digits]

theorem cell?_digits (n : Nat) : cell? (Decimal.digits n) = some n := by
  have hpadded := cell?_padded_digits 0 n
  rwa [Decimal.padLeft, Nat.zero_sub, List.replicate_zero, List.nil_append] at hpadded

theorem upperCell?_upperText (high : Option Nat) :
    upperCell? (' ' :: upperText high) = some high := by
  cases high with
  | none => decide
  | some high =>
      have hblanks := Decimal.dropWhile_padded_digits 4 high []
      rw [List.append_nil, List.append_nil] at hblanks
      have hnumber : Decimal.digits high ≠ "inf".toList := by
        intro heq
        have hletter := Decimal.notMem_digits (c := 'i') (by decide) high
        rw [heq] at hletter
        exact hletter (by decide)
      rw [upperCell?, cell?, List.dropWhile_cons_of_pos (by decide), upperText, hblanks,
        if_neg hnumber, Decimal.value?_digits, Option.map_some]

/-- **A printed row is read back.** -/
theorem Row.read?_rowText (h : Histogram) (r : Row) : Row.read? (h.rowText r) = some r := by
  have hlow := Decimal.notMem_padded_digits (c := ',') (by decide) (by decide) 4 r.low
  have hopened : ',' ∉ '[' :: Decimal.padLeft 4 (Decimal.digits r.low) := by
    simpa using hlow
  have hhigh : ')' ∉ ' ' :: upperText r.high := by
    simpa using notMem_upperText (c := ')') (by decide) (by decide) (by decide) r.high
  have hnumeral := Decimal.notMem_digits (c := ' ') (by decide) r.count
  rw [rowText_eq, read?, List.cons_append, List.drop_one, List.tail_cons, takeWhile_ne_append hlow,
    ← List.cons_append, dropWhile_ne_append hopened, List.drop_one, List.tail_cons,
    ← List.cons_append, takeWhile_ne_append hhigh, dropWhile_ne_append hhigh, List.drop_one,
    List.tail_cons, List.dropWhile_cons_of_pos (by decide),
    List.dropWhile_cons_of_pos (by decide), Decimal.dropWhile_padded_digits,
    takeWhile_ne_append hnumeral, cell?_padded_digits, upperCell?_upperText, cell?_digits]

/-! ## When the rows can be computed -/

/-- The rows of some buckets from the one with an index on. -/
def shownFrom (h : Histogram) (index : Nat) : List Nat → List Row
  | [] => []
  | count :: rest =>
    ⟨h.lowerBound index, if rest.isEmpty then none else some (h.lowerBound (index + 1)), count⟩
      :: h.shownFrom (index + 1) rest

theorem rows_cons (h : Histogram) (index count : Nat) (rest : List Nat) :
    h.rows index (count :: rest) = (mulWord index h.width).bind fun offset =>
      (addWord h.min offset).bind fun low =>
        if rest.isEmpty then .ok (h.rowLine low none count)
        else (addWord low h.width).bind fun high =>
          (h.rows (index + 1) rest).bind fun below =>
            .ok (h.rowLine low (some high) count ++ below) := rfl

theorem lowerBound_succ (h : Histogram) (i : Nat) :
    h.lowerBound (i + 1) = h.lowerBound i + h.width := by
  rw [lowerBound, lowerBound, Nat.succ_mul, Nat.add_assoc]

theorem lowerBound_mono (h : Histogram) {i j : Nat} (hij : i ≤ j) :
    h.lowerBound i ≤ h.lowerBound j :=
  Nat.add_le_add_left (Nat.mul_le_mul_right h.width hij) h.min

/-- **The rows can be computed** where the lower bound of the last one is a word. -/
theorem rows_of_fits (h : Histogram) {counts : List Nat} {index last : Nat}
    (hlast : index + counts.length = last + 1) (hfits : h.lowerBound last < wordLimit) :
    h.rows index counts = .ok ((h.shownFrom index counts).flatMap (h.rowText · ++ ['\n'])) := by
  induction counts generalizing index with
  | nil => rfl
  | cons count rest ih =>
      rw [List.length_cons] at hlast
      have hle : h.lowerBound index ≤ h.lowerBound last := h.lowerBound_mono (by omega)
      have hoffset : mulWord index h.width = .ok (index * h.width) :=
        if_pos (by unfold lowerBound at hle hfits; omega)
      have hlow : addWord h.min (index * h.width) = .ok (h.lowerBound index) :=
        if_pos (by unfold lowerBound at hle hfits; omega)
      rw [rows_cons, hoffset, Except.bind, hlow, Except.bind]
      cases rest with
      | nil =>
          simp only [shownFrom, List.isEmpty_nil, if_true, List.flatMap_cons, List.flatMap_nil,
            ← rowLine_eq, List.append_nil]
      | cons next rest =>
          rw [List.length_cons] at hlast
          have hle' : h.lowerBound (index + 1) ≤ h.lowerBound last := h.lowerBound_mono (by omega)
          have hhigh : addWord (h.lowerBound index) h.width = .ok (h.lowerBound (index + 1)) := by
            rw [addWord, ← lowerBound_succ]
            exact if_pos (by omega)
          have hbelow : h.rows (index + 1) (next :: rest) = _ :=
            ih (by rw [List.length_cons]; omega)
          simp only [List.isEmpty_cons, Bool.false_eq_true, if_false, hhigh, hbelow, Except.bind,
            shownFrom, List.flatMap_cons, ← rowLine_eq]

/-- **Otherwise a sum leaves its range.** The product of a row has been reached by the upper bound
of the row before, so it does not. -/
theorem rows_of_overflow (h : Histogram) {counts : List Nat} {index last : Nat}
    (hlast : index + counts.length = last + 1) (hbuckets : counts ≠ [])
    (hoffset : index * h.width < wordLimit) (hover : wordLimit ≤ h.lowerBound last) :
    h.rows index counts = .error .addition := by
  induction counts generalizing index with
  | nil => exact absurd rfl hbuckets
  | cons count rest ih =>
      rw [List.length_cons] at hlast
      rw [rows_cons, show mulWord index h.width = .ok (index * h.width) from if_pos hoffset,
        Except.bind]
      by_cases hlow : h.lowerBound index < wordLimit
      · have hsum : addWord h.min (index * h.width) = .ok (h.lowerBound index) := if_pos hlow
        rw [hsum, Except.bind]
        cases rest with
        | nil =>
            have hindex : index = last := by simpa using hlast
            rw [hindex] at hlow
            omega
        | cons next rest =>
            simp only [List.isEmpty_cons, Bool.false_eq_true, if_false]
            by_cases hhigh : h.lowerBound (index + 1) < wordLimit
            · have hsum : addWord (h.lowerBound index) h.width =
                  .ok (h.lowerBound (index + 1)) := by
                rw [addWord, ← lowerBound_succ]
                exact if_pos hhigh
              have hbelow : h.rows (index + 1) (next :: rest) = .error .addition :=
                ih (by omega) (List.cons_ne_nil _ _) (by unfold lowerBound at hhigh; omega)
              rw [hsum, Except.bind, hbelow]
              rfl
            · have hsum : addWord (h.lowerBound index) h.width = .error .addition := by
                rw [addWord, ← lowerBound_succ]
                exact if_neg hhigh
              rw [hsum]
              rfl
      · have hsum : addWord h.min (index * h.width) = .error .addition := if_neg hlow
        rw [hsum]
        rfl

/-! ## What the rows say -/

theorem length_shownFrom (h : Histogram) (index : Nat) (counts : List Nat) :
    (h.shownFrom index counts).length = counts.length := by
  induction counts generalizing index with
  | nil => rfl
  | cons count rest ih => simp only [shownFrom, List.length_cons, ih]

theorem getElem?_shownFrom (h : Histogram) (counts : List Nat) (index i : Nat) :
    (h.shownFrom index counts)[i]? = counts[i]?.map fun count =>
      ⟨h.lowerBound (index + i),
        if i + 1 = counts.length then none else some (h.lowerBound (index + i + 1)), count⟩ := by
  induction counts generalizing index i with
  | nil => rfl
  | cons count rest ih =>
      cases i with
      | zero =>
          cases rest with
          | nil => rfl
          | cons next rest => rfl
      | succ i =>
          have hindex : index + 1 + i = index + (i + 1) := by omega
          simp only [shownFrom, List.getElem?_cons_succ, ih, hindex, List.length_cons,
            Nat.add_right_cancel_iff]

/-- All rows of a histogram. -/
def shown (h : Histogram) : List Row := h.shownFrom 0 h.counts

theorem length_shown (h : Histogram) : h.shown.length = h.counts.length :=
  h.length_shownFrom 0 h.counts

theorem getElem?_shown (h : Histogram) (i : Nat) :
    h.shown[i]? = h.counts[i]?.map fun count => ⟨h.lowerBound i,
      if i + 1 = h.counts.length then none else some (h.lowerBound (i + 1)), count⟩ := by
  rw [shown, getElem?_shownFrom, Nat.zero_add]

/-- A row shows its bucket. -/
theorem getElem_shown {h : Histogram} {i : Nat} (hi : i < h.shown.length) :
    ∃ count, h.counts[i]? = some count ∧ h.shown[i] = ⟨h.lowerBound i,
      if i + 1 = h.counts.length then none else some (h.lowerBound (i + 1)), count⟩ := by
  have hbucket : i < h.counts.length := by rwa [← length_shown]
  have hrow := h.getElem?_shown i
  rw [List.getElem?_eq_getElem hbucket, Option.map_some, List.getElem?_eq_getElem hi] at hrow
  exact ⟨_, List.getElem?_eq_getElem hbucket, Option.some.inj hrow⟩

/-- The interval of a row holds the values of its bucket, but for those below the minimum. -/
theorem spans_shown_iff {h : Histogram} {i : Nat} (hi : i < h.shown.length) (value : Nat) :
    h.shown[i].Spans value ↔ h.Takes i value ∧ h.min ≤ value := by
  obtain ⟨count, -, hrow⟩ := getElem_shown hi
  have hmin : h.min ≤ h.lowerBound i := Nat.le_add_right _ _
  have hfirst : i = 0 → h.lowerBound i = h.min := by
    intro h0
    rw [lowerBound, h0, Nat.zero_mul, Nat.add_zero]
  rw [hrow, Takes]
  by_cases hlast : i + 1 = h.counts.length
  · rw [if_pos hlast, Row.spans_none]
    omega
  · rw [if_neg hlast, Row.spans_some]
    omega

/-- The values below the minimum are all in the first bucket. -/
theorem takes_below_iff {h : Histogram} (hwidth : 0 < h.width) {i value : Nat}
    (hvalue : value < h.min) : h.Takes i value ↔ i = 0 := by
  have hmin : h.min ≤ h.lowerBound i := Nat.le_add_right _ _
  have hnext := h.lowerBound_succ i
  unfold Takes
  omega

/-- **A value lies in the interval of one row**, unless it is below the minimum. -/
theorem exists_unique_row {h : Histogram} (hwidth : 0 < h.width) (hbuckets : h.counts ≠ [])
    {value : Nat} (hvalue : h.min ≤ value) : ∃! i : Fin h.shown.length, h.shown[i].Spans value := by
  have hrow : ∀ i : Fin h.shown.length, h.shown[i].Spans value ↔ h.bucketOf value = i := by
    intro i
    have hi : i.val < h.counts.length := by
      rw [← length_shown]
      exact i.isLt
    rw [bucketOf_eq_iff hwidth hi]
    exact (spans_shown_iff i.isLt value).trans (and_iff_left hvalue)
  have hlt : h.bucketOf value < h.shown.length := by
    rw [length_shown]
    exact h.bucketOf_lt hbuckets value
  refine ⟨⟨h.bucketOf value, hlt⟩, (hrow _).mpr rfl, fun i hi => ?_⟩
  exact Fin.ext ((hrow i).mp hi).symm

/-- Values of a bucket, with those below the minimum apart. -/
theorem countP_takes {h : Histogram} (hwidth : 0 < h.width) {i : Nat} (hi : i < h.shown.length)
    (values : List Nat) : values.countP (fun value => h.Takes i value) =
      values.countP (h.shown[i].Spans ·) + if i = 0 then values.countP (· < h.min) else 0 := by
  have habove : ∀ value, (decide (h.Takes i value) && decide (h.min ≤ value)) =
      decide (h.shown[i].Spans value) := by
    intro value
    rw [← Bool.decide_and, decide_eq_decide, spans_shown_iff hi]
  have hbelow : ∀ value, (decide (h.Takes i value) && !decide (h.min ≤ value)) =
      (decide (i = 0) && decide (value < h.min)) := by
    intro value
    by_cases hvalue : value < h.min
    · simp [takes_below_iff hwidth hvalue, hvalue]
    · simp [hvalue, Nat.not_lt.mp hvalue]
  rw [List.countP_eq_countP_filter_add values _ fun value => decide (h.min ≤ value),
    List.countP_filter, List.countP_filter]
  simp only [habove, hbelow]
  by_cases h0 : i = 0
  · simp [h0]
  · simp [h0]

/-- What the rows of a table say of the values that were counted in buckets of a width. -/
structure Tabulates (n w min : Nat) (values counts : List Nat) (rows : List Row) : Prop where
  length : rows.length = n
  shown : ∀ i (hi : i < rows.length), rows[i].low = min + i * w ∧ counts[i]? = some rows[i].count
  /-- An upper bound is the lower bound of the next row. -/
  chained : ∀ i (hi : i + 1 < rows.length), rows[i].high = some rows[i + 1].low
  /-- Only the last row has no upper bound. -/
  unbounded : ∀ i (hi : i < rows.length), rows[i].high = none ↔ i + 1 = rows.length
  /-- A value that is not below the minimum lies in the interval of one row. -/
  found : ∀ value, min ≤ value → ∃! i : Fin rows.length, rows[i].Spans value
  /-- A row counts the values in its interval, and the first one those below the minimum too. -/
  counted : ∀ i (hi : i < rows.length), rows[i].count =
    values.countP (rows[i].Spans ·) + if i = 0 then values.countP (· < min) else 0

theorem tabulates_filled (buckets width min : Nat) (values : List Nat) :
    Tabulates (Max.max buckets 1) (Max.max width 1) min values
      (filled buckets width min values).counts (filled buckets width min values).shown := by
  have hlength := length_filled buckets width min values
  have hbound := lowerBound_filled buckets width min values
  have hmin := min_filled buckets width min values
  have hwidth : 0 < (filled buckets width min values).width := by
    rw [width_filled]
    omega
  have hbuckets : (filled buckets width min values).counts ≠ [] := by
    rw [← List.length_pos_iff, hlength]
    omega
  have hcount := fun i => getElem?_counts_filled buckets width min values (i := i)
  generalize filled buckets width min values = h at *
  refine ⟨h.length_shown.trans hlength, ?_, ?_, ?_, ?_, ?_⟩
  · intro i hi
    obtain ⟨count, hget, hrow⟩ := getElem_shown hi
    rw [hrow]
    exact ⟨hbound i, hget⟩
  · intro i hi
    obtain ⟨count, -, hrow⟩ := getElem_shown (Nat.lt_of_succ_lt hi)
    obtain ⟨next, -, hnext⟩ := getElem_shown hi
    rw [length_shown] at hi
    rw [hrow, hnext, if_neg (by omega)]
  · intro i hi
    obtain ⟨count, -, hrow⟩ := getElem_shown hi
    rw [hrow, length_shown]
    by_cases hlast : i + 1 = h.counts.length
    · simp [hlast]
    · simp [hlast]
  · intro value hvalue
    rw [← hmin] at hvalue
    exact exists_unique_row hwidth hbuckets hvalue
  · intro i hi
    obtain ⟨count, hget, hrow⟩ := getElem_shown hi
    have htaken := hcount i (by rwa [length_shown, hlength] at hi)
    have hshown : h.shown[i].count = count := by rw [hrow]
    rw [hget, Option.some.injEq, countP_takes hwidth hi, hmin] at htaken
    rw [hshown, htaken]

/-! ## What is shown -/

/-- The rows as lines of text. -/
theorem render_of_fits (h : Histogram) {last : Nat} (hlast : h.counts.length = last + 1)
    (hfits : h.lowerBound last < wordLimit) :
    ∃ text, h.render = .ok text ∧
      text.toList.splitOn '\n' = h.headerText :: h.shown.map h.rowText ++ [[]] := by
  have hrows : h.rows 0 h.counts = _ := h.rows_of_fits (by omega) hfits
  refine ⟨_, by rw [render, hrows]; rfl, ?_⟩
  have hlines : h.headerLine ++ (h.shownFrom 0 h.counts).flatMap (h.rowText · ++ ['\n']) =
      (h.headerText :: h.shown.map h.rowText).flatMap (· ++ ['\n']) := by
    rw [headerLine_eq, List.flatMap_cons, List.flatMap_map, shown]
  have hbreaks : ∀ line ∈ h.headerText :: h.shown.map h.rowText, '\n' ∉ line := by
    intro line hline
    rcases List.mem_cons.mp hline with rfl | hrow
    · exact h.newline_notMem_headerText
    · obtain ⟨r, -, rfl⟩ := List.mem_map.mp hrow
      exact h.newline_notMem_rowText r
  rw [String.toList_ofList, hlines, splitOn_lines hbreaks]

theorem render_of_overflow (h : Histogram) {last : Nat} (hlast : h.counts.length = last + 1)
    (hover : wordLimit ≤ h.lowerBound last) : h.render = .error .addition := by
  have hbuckets : h.counts ≠ [] := by
    rw [← List.length_pos_iff, hlast]
    exact Nat.succ_pos last
  have hoffset : 0 * h.width < wordLimit := by
    rw [Nat.zero_mul]
    decide
  have hrows : h.rows 0 h.counts = .error .addition :=
    h.rows_of_overflow (by omega) hbuckets hoffset hover
  rw [render, hrows]
  rfl

/-- **A histogram cannot be shown exactly if the lower bound of its last bucket is no word.**  Then
a sum leaves its range, and never a product.  Otherwise the text is the header line and a line for
each bucket, and what is read from those lines is a table of the values: row by row the lower bound
and the count of a bucket, each upper bound the lower bound of the next row, no upper bound in the
last row alone, and each value from the minimum on is counted in the one row in whose printed
interval it lies. -/
theorem render_fails_iff_bound_overflows (buckets width min : Nat) (values : List Nat) :
    ((∃ o, (filled buckets width min values).render = .error o) ↔
      wordLimit ≤ min + (Max.max buckets 1 - 1) * Max.max width 1) ∧
    ((filled buckets width min values).render = .error .addition ∨
      ∃ text lines rows, (filled buckets width min values).render = .ok text ∧
        text.toList.splitOn '\n' =
          (filled buckets width min values).headerText :: lines ++ [[]] ∧
        lines.map Row.read? = rows.map some ∧
        Tabulates (Max.max buckets 1) (Max.max width 1) min values
          (filled buckets width min values).counts rows) := by
  have hlast : (filled buckets width min values).counts.length = Max.max buckets 1 - 1 + 1 := by
    rw [length_filled]
    omega
  rw [← lowerBound_filled buckets width min values]
  by_cases hover : wordLimit ≤
      (filled buckets width min values).lowerBound (Max.max buckets 1 - 1)
  · have hfails := render_of_overflow _ hlast hover
    exact ⟨⟨fun _ => hover, fun _ => ⟨_, hfails⟩⟩, Or.inl hfails⟩
  · obtain ⟨text, hrender, hlines⟩ := render_of_fits _ hlast (Nat.not_le.mp hover)
    refine ⟨⟨?_, fun h => absurd h hover⟩, Or.inr ⟨text, _, _, hrender, hlines, ?_,
      tabulates_filled buckets width min values⟩⟩
    · rintro ⟨o, hfails⟩
      rw [hrender] at hfails
      cases hfails
    · simp only [List.map_map, Function.comp_def, Row.read?_rowText]

/-- One more bucket, and the last bound is no word. -/
example : (linear 1 1 (wordLimit - 1)).render.toOption.isSome = true ∧
    (linear 2 1 (wordLimit - 1)).render = .error .addition := by decide +kernel

end Histogram

end RpcConformance
