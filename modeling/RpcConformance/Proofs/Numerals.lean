import Mathlib.Algebra.Ring.Nat
import Mathlib.Data.List.Induction
import RpcConformance.Text.Decimal

/-!
# Decimal numerals

A numeral is the digits of its number: reading what was written gives the number back, a number
below a power of ten is written with at most so many digits, and so many digits read as a number
below that power.  Numerals are written from the right, so every fact about them goes by the
last digit.

## Main results

* `Decimal.value?_digits`, `Decimal.unsigned?_text` — a written number is read back.
* `Decimal.length_digits_le`, `Decimal.value_lt` — how many digits a number has.
-/

namespace RpcConformance.Decimal

/-! ## Single digits -/

theorem toNat_digitChar {d : Nat} (h : d < 10) : (digitChar d).toNat = 48 + d := by
  have hvalid : (48 + d).isValidChar := Or.inl (by omega)
  rw [digitChar, Char.ofNat, dif_pos hvalid]
  rfl

theorem isDigit_digitChar {d : Nat} (h : d < 10) : isDigit (digitChar d) = true := by
  have hchar := toNat_digitChar h
  simp only [isDigit, Bool.and_eq_true, decide_eq_true_eq]
  omega

theorem digitValue_digitChar {d : Nat} (h : d < 10) : digitValue (digitChar d) = d := by
  have hchar := toNat_digitChar h
  unfold digitValue
  omega

theorem digitValue_lt {c : Char} (h : isDigit c = true) : digitValue c < 10 := by
  simp only [isDigit, Bool.and_eq_true, decide_eq_true_eq] at h
  unfold digitValue
  omega

theorem isDigit_ascii {c : Char} (h : isDigit c = true) : c.toNat < 128 := by
  simp only [isDigit, Bool.and_eq_true, decide_eq_true_eq] at h
  omega

/-! ## Reading by the last digit -/

theorem valueFrom_concat (acc : Nat) (cs : List Char) (c : Char) :
    valueFrom acc (cs ++ [c]) = valueFrom acc cs * 10 + digitValue c := by
  induction cs generalizing acc with
  | nil => rfl
  | cons first rest ih =>
      have hrest := ih (acc * 10 + digitValue first)
      exact hrest

theorem value_concat (cs : List Char) (c : Char) :
    value (cs ++ [c]) = value cs * 10 + digitValue c :=
  valueFrom_concat 0 cs c

/-- So many digits read as a number below that power of ten. -/
theorem value_lt {cs : List Char} (h : ∀ c ∈ cs, isDigit c = true) :
    value cs < 10 ^ cs.length := by
  induction cs using List.reverseRecOn with
  | nil => exact Nat.one_pos
  | append_singleton cs c ih =>
      have hcs : value cs < 10 ^ cs.length := ih fun d hd => h d (List.mem_append_left _ hd)
      have hc : digitValue c < 10 := digitValue_lt (h c (by simp))
      rw [value_concat, List.length_append, List.length_singleton, Nat.pow_succ]
      omega

/-! ## What is written -/

theorem digits_of_lt {n : Nat} (h : n < 10) : digits n = [digitChar n] := by
  rw [digits, if_pos h]

theorem digits_of_le {n : Nat} (h : 10 ≤ n) :
    digits n = digits (n / 10) ++ [digitChar (n % 10)] := by
  rw [digits, if_neg (by omega)]

/-- An induction on a number by the digits it is written with. -/
theorem digits_induction {P : Nat → Prop} (small : ∀ n, n < 10 → P n)
    (step : ∀ n, 10 ≤ n → P (n / 10) → P n) (n : Nat) : P n := by
  induction n using Nat.strongRecOn with
  | ind n ih =>
      by_cases hn : n < 10
      · exact small n hn
      · exact step n (by omega) (ih (n / 10) (by omega))

theorem digits_ne_nil (n : Nat) : digits n ≠ [] := by
  by_cases hn : n < 10
  · rw [digits_of_lt hn]
    exact List.cons_ne_nil _ _
  · rw [digits_of_le (by omega)]
    exact List.concat_ne_nil _ _

theorem isDigit_of_mem_digits {n : Nat} {c : Char} (h : c ∈ digits n) : isDigit c = true := by
  induction n using digits_induction with
  | small n hn =>
      rw [digits_of_lt hn, List.mem_singleton] at h
      rw [h]
      exact isDigit_digitChar hn
  | step n hn ih =>
      rw [digits_of_le hn, List.mem_append, List.mem_singleton] at h
      rcases h with hfront | rfl
      · exact ih hfront
      · exact isDigit_digitChar (Nat.mod_lt n (by decide))

theorem notMem_digits {c : Char} (h : isDigit c = false) (n : Nat) : c ∉ digits n := by
  intro hc
  rw [isDigit_of_mem_digits hc] at h
  cases h

/-- Only zero is written with a zero at the front. -/
theorem head?_digits {n : Nat} (h : 0 < n) : (digits n).head? ≠ some '0' := by
  induction n using digits_induction with
  | small n hn =>
      intro hhead
      rw [digits_of_lt hn] at hhead
      have hzero : digitChar n = '0' := Option.some.inj hhead
      have hcode := toNat_digitChar hn
      rw [hzero] at hcode
      have hvalue : '0'.toNat = 48 := rfl
      omega
  | step n hn ih =>
      have hfront := ih (by omega)
      obtain ⟨d, ds, hds⟩ := List.exists_cons_of_ne_nil (digits_ne_nil (n / 10))
      rw [hds] at hfront
      rw [digits_of_le hn, hds]
      exact hfront

theorem value_digits (n : Nat) : value (digits n) = n := by
  induction n using digits_induction with
  | small n hn =>
      rw [digits_of_lt hn]
      show 0 * 10 + digitValue (digitChar n) = n
      rw [digitValue_digitChar hn, Nat.zero_mul, Nat.zero_add]
  | step n hn ih =>
      have hlast : digitValue (digitChar (n % 10)) = n % 10 :=
        digitValue_digitChar (Nat.mod_lt n (by decide))
      rw [digits_of_le hn, value_concat, ih, hlast]
      omega

/-- A number below a power of ten has at most so many digits. -/
theorem length_digits_le {n k : Nat} (hk : 0 < k) (h : n < 10 ^ k) : (digits n).length ≤ k := by
  induction n using digits_induction generalizing k with
  | small n hn =>
      rw [digits_of_lt hn]
      exact hk
  | step n hn ih =>
      obtain ⟨j, rfl⟩ : ∃ j, k = j + 1 := ⟨k - 1, by omega⟩
      rw [Nat.pow_succ] at h
      have hj : 0 < j := by
        rcases Nat.eq_zero_or_pos j with rfl | hpos
        · simp only [Nat.pow_zero] at h
          omega
        · exact hpos
      have hfront : (digits (n / 10)).length ≤ j := ih hj (by omega)
      rw [digits_of_le hn, List.length_append, List.length_singleton]
      omega

/-- A nonempty list of digits is read as its value. -/
theorem value?_eq_some_iff {cs : List Char} {n : Nat} :
    value? cs = some n ↔ cs ≠ [] ∧ (∀ c ∈ cs, isDigit c = true) ∧ value cs = n := by
  unfold value?
  split
  · rename_i h
    simp only [Bool.and_eq_true, Bool.not_eq_true', List.isEmpty_eq_false_iff,
      List.all_eq_true] at h
    exact ⟨fun hn => ⟨h.1, h.2, Option.some.inj hn⟩, fun hn => congrArg some hn.2.2⟩
  · rename_i h
    simp only [Bool.and_eq_true, Bool.not_eq_true', List.isEmpty_eq_false_iff,
      List.all_eq_true] at h
    exact ⟨nofun, fun hn => absurd ⟨hn.1, hn.2.1⟩ h⟩

/-- **A written number is read back.** -/
theorem value?_digits (n : Nat) : value? (digits n) = some n :=
  value?_eq_some_iff.mpr ⟨digits_ne_nil n, fun _ => isDigit_of_mem_digits, value_digits n⟩

/-- A text of digits is read as their value where that has so many bits: a digit is no sign. -/
theorem unsigned?_digits {bits : Nat} {cs : List Char} (hdigit : ∀ c ∈ cs, isDigit c = true)
    (h : value cs < powerOfTwo bits) : unsigned? bits (String.ofList cs) = value? cs := by
  unfold unsigned?
  rw [String.toList_ofList]
  split
  · have hplus : isDigit '+' = true := hdigit '+' List.mem_cons_self
    exact absurd hplus (by decide)
  · show (value? cs).filter (· < powerOfTwo bits) = value? cs
    cases hread : value? cs with
    | none => rfl
    | some n =>
        obtain ⟨-, -, rfl⟩ := value?_eq_some_iff.mp hread
        rw [Option.filter_some, if_pos (decide_eq_true h)]

/-- A written number is read back as one of so many bits. -/
theorem unsigned?_text {bits n : Nat} (h : n < powerOfTwo bits) :
    unsigned? bits (text n) = some n := by
  have hvalue : value (digits n) < powerOfTwo bits := by rwa [value_digits]
  rw [text, unsigned?_digits (fun _ => isDigit_of_mem_digits) hvalue, value?_digits]

end RpcConformance.Decimal
