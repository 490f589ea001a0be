import RpcConformance.Proofs.HeaderText
import RpcConformance.Proofs.Numerals
import RpcConformance.Timeout

/-!
# The grammar of timeouts

A timeout is spelled by one to eight digits and the letter of a unit.  A text that a peer sends may
be anything, but nothing outside ASCII comes as far as the cut, so the last byte is a character of
its own; what stands before it is counted only when it is digits and no more than eight, so neither
a sign nor a product of 64 bits can do harm.

## Main results

* `read_of_spells`, `read_of_not_spells` — what is read of either kind of text.
* `parse_eq_some_iff` — what is read, and as what.
* `read_is_exact` — the grammar, the exact value, and that nothing stops the reading.
-/

namespace RpcConformance.Timeout

namespace TimeUnit

theorem ofLetter?_eq_some_iff {c : Char} {u : TimeUnit} : ofLetter? c = some u ↔ c = u.letter := by
  constructor
  · intro h
    have hletter := List.find?_some h
    exact (beq_iff_eq.mp hletter).symm
  · rintro rfl
    cases u <;> decide

theorem nanos_le_hour (u : TimeUnit) : u.nanos ≤ hour.nanos := by
  cases u <;> decide

end TimeUnit

/-- A text of one to eight digits and the letter of a unit. -/
structure Spells (s : String) (digits : List Char) (unit : TimeUnit) : Prop where
  text : s.toList = digits ++ [unit.letter]
  nonempty : digits ≠ []
  length_le : digits.length ≤ 8
  digit : ∀ c ∈ digits, Decimal.isDigit c = true

theorem Spells.ascii {s : String} {digits : List Char} {unit : TimeUnit}
    (h : Spells s digits unit) : ∀ c ∈ s.toList, c.toNat < 128 := by
  have hletter : unit.letter.toNat < 128 := by cases unit <;> decide
  rw [h.text]
  exact List.forall_mem_append.mpr ⟨fun c hc => Decimal.isDigit_ascii (h.digit c hc),
    List.forall_mem_singleton.mpr hletter⟩

/-! ## The steps -/

theorem splitUnit_ascii {s : String} {front : List Char} {c : Char}
    (hs : s.toList = front ++ [c]) (hascii : ∀ d ∈ s.toList, d.toNat < 128) :
    splitUnit s = .ok (front, [c]) := by
  have hlength : (Utf8.encode s).length = front.length + 1 := by
    rw [HeaderValue.length_encode_ascii hascii, hs, List.length_append, List.length_singleton]
  have hless : subWord (front.length + 1) 1 = .ok front.length := if_pos (Nat.le_add_left 1 _)
  rw [hs] at hascii
  have hfront : ∀ d ∈ front, d.toNat < 128 := fun d hd => hascii d (List.mem_append_left _ hd)
  rw [splitUnit, hlength, hless, hs]
  show (Utf8.cut? (front ++ [c]) front.length).elim (Except.error ReadStop.cut) Except.ok = _
  rw [Utf8.cut?_ascii hfront]
  rfl

/-- A count is at most eight digits, and these alone: a sign is none of them. -/
theorem count?_eq_some_iff {digits : List Char} {n : Nat} :
    count? digits = some n ↔ digits ≠ [] ∧ digits.length ≤ 8 ∧
      (∀ c ∈ digits, Decimal.isDigit c = true) ∧ Decimal.value digits = n := by
  have hbytes (hdigit : ∀ c ∈ digits, Decimal.isDigit c = true) :
      (Utf8.encode (String.ofList digits)).length = digits.length := by
    have hascii : ∀ c ∈ (String.ofList digits).toList, c.toNat < 128 := by
      rw [String.toList_ofList]
      exact fun c hc => Decimal.isDigit_ascii (hdigit c hc)
    rw [HeaderValue.length_encode_ascii hascii, String.toList_ofList]
  have hread (hdigit : ∀ c ∈ digits, Decimal.isDigit c = true) (hlength : digits.length ≤ 8) :
      Decimal.unsigned? 64 (String.ofList digits) = Decimal.value? digits := by
    have hlt : Decimal.value digits < powerOfTwo 64 :=
      calc Decimal.value digits < 10 ^ digits.length := Decimal.value_lt hdigit
        _ ≤ 10 ^ 8 := Nat.pow_le_pow_right (by decide) hlength
        _ < powerOfTwo 64 := by decide
    exact Decimal.unsigned?_digits hdigit hlt
  unfold count?
  split
  · rename_i hbad
    refine ⟨nofun, fun ⟨_, hlength, hdigit, _⟩ => ?_⟩
    have hall : digits.all Decimal.isDigit = true := List.all_eq_true.mpr hdigit
    rw [hbytes hdigit, hall, Bool.not_true, Bool.or_false, decide_eq_true_eq] at hbad
    omega
  · rename_i hgood
    simp only [Bool.or_eq_true, decide_eq_true_eq, Bool.not_eq_true', not_or, Nat.not_lt,
      Bool.not_eq_false, List.all_eq_true] at hgood
    obtain ⟨hlength, hdigit⟩ := hgood
    rw [hbytes hdigit] at hlength
    rw [hread hdigit hlength, Decimal.value?_eq_some_iff]
    exact ⟨fun ⟨hne, _, hn⟩ => ⟨hne, hlength, hdigit, hn⟩, fun ⟨hne, _, _, hn⟩ => ⟨hne, hdigit, hn⟩⟩

theorem unit?_eq_some_iff {cs : List Char} {u : TimeUnit} :
    unit? cs = some u ↔ cs = [u.letter] := by
  unfold unit?
  split
  · rw [TimeUnit.ofLetter?_eq_some_iff, List.singleton_inj]
  · rename_i hother
    exact ⟨nofun, fun h => absurd h (hother u.letter)⟩

theorem value_le_maxCount {digits : List Char} (hdigit : ∀ c ∈ digits, Decimal.isDigit c = true)
    (hlength : digits.length ≤ 8) : Decimal.value digits ≤ maxCount := by
  have hvalue : Decimal.value digits < 10 ^ digits.length := Decimal.value_lt hdigit
  have hpower : 10 ^ digits.length ≤ 10 ^ 8 := Nat.pow_le_pow_right (by decide) hlength
  have hmax : 10 ^ 8 = maxCount + 1 := rfl
  omega

/-- A count of eight digits stays in range in every unit, and nothing of it is lost. -/
theorem times_eq {n : Nat} (h : n ≤ maxCount) (u : TimeUnit) : u.times n = .ok ⟨n * u.nanos⟩ := by
  have hword : wordLimit = 18446744073709551616 := by decide
  have hmax : maxCount = 99999999 := rfl
  have hminutes : mulWord n 60 = .ok (n * 60) := if_pos (by omega)
  have hseconds : mulWord (n * 60) 60 = .ok (n * 60 * 60) := if_pos (by omega)
  cases u with
  | nanosecond => rw [TimeUnit.nanos, Nat.mul_one]; rfl
  | microsecond => rfl
  | millisecond => rfl
  | second => rfl
  | minute =>
      rw [TimeUnit.times, hminutes]
      show Except.ok (⟨n * 60 * 1000000000⟩ : Duration) = _
      rw [Nat.mul_assoc]
      rfl
  | hour =>
      rw [TimeUnit.times, hminutes]
      show (mulWord (n * 60) 60 >>= fun seconds => pure (Duration.ofSecs seconds)) = _
      rw [hseconds]
      show Except.ok (⟨n * 60 * 60 * 1000000000⟩ : Duration) = _
      rw [Nat.mul_assoc, Nat.mul_assoc]
      rfl

/-! ## The whole text -/

theorem read_of_spells {s : String} {digits : List Char} {unit : TimeUnit}
    (h : Spells s digits unit) :
    read s = .ok (some ⟨Decimal.value digits * unit.nanos⟩) := by
  have hplain : (s.toList.any (128 ≤ ·.toNat) || (Utf8.encode s).length < 2) = false := by
    have hpos : 0 < digits.length := List.length_pos_iff.mpr h.nonempty
    rw [HeaderValue.length_encode_ascii h.ascii, h.text, List.length_append,
      List.length_singleton, Bool.or_eq_false_iff, ← h.text, List.any_eq_false]
    refine ⟨fun c hc => ?_, decide_eq_false (by omega)⟩
    have hc := h.ascii c hc
    rw [decide_eq_true_eq]
    omega
  have hcount : count? digits = some (Decimal.value digits) :=
    count?_eq_some_iff.mpr ⟨h.nonempty, h.length_le, h.digit, rfl⟩
  have hunit : unit? [unit.letter] = some unit := unit?_eq_some_iff.mpr rfl
  have htimes := times_eq (value_le_maxCount h.digit h.length_le) unit
  rw [read, hplain, if_neg Bool.false_ne_true, splitUnit_ascii h.text h.ascii]
  show inUnits (count? digits) (unit? [unit.letter]) = _
  rw [hcount, hunit, inUnits, htimes]
  rfl

/-- A text of another form is refused, before it is cut or for what stands on either side of the
cut. -/
theorem read_of_not_spells {s : String} (h : ∀ digits unit, ¬ Spells s digits unit) :
    read s = .ok none := by
  unfold read
  split
  · rfl
  · rename_i hplain
    simp only [Bool.or_eq_true, List.any_eq_true, decide_eq_true_eq, not_or, not_exists, not_and,
      Nat.not_le, Nat.not_lt] at hplain
    obtain ⟨hascii, hlength⟩ := hplain
    rw [HeaderValue.length_encode_ascii hascii] at hlength
    obtain ⟨front, c, hs⟩ : ∃ front c, s.toList = front ++ [c] := by
      rcases List.eq_nil_or_concat s.toList with hnil | ⟨front, c, hs⟩
      · rw [hnil, List.length_nil] at hlength
        omega
      · exact ⟨front, c, hs.trans (List.concat_eq_append ..)⟩
    rw [splitUnit_ascii hs hascii]
    show inUnits (count? front) (unit? [c]) = _
    cases hcount : count? front with
    | none => rfl
    | some n =>
        cases hunit : unit? [c] with
        | none => rfl
        | some u =>
            obtain ⟨hne, hlength, hdigit, -⟩ := count?_eq_some_iff.mp hcount
            have hletter := unit?_eq_some_iff.mp hunit
            exact absurd ⟨by rw [hs, hletter], hne, hlength, hdigit⟩ (h front u)

/-- **Nothing stops the reading of a text.** -/
theorem read_eq_parse (s : String) : read s = .ok (parse s) := by
  have hread : ∃ timeout, read s = .ok timeout := by
    by_cases h : ∃ digits unit, Spells s digits unit
    · obtain ⟨digits, unit, hs⟩ := h
      exact ⟨_, read_of_spells hs⟩
    · exact ⟨none, read_of_not_spells fun digits unit hs => h ⟨digits, unit, hs⟩⟩
  obtain ⟨timeout, hread⟩ := hread
  rw [parse, hread]

/-- **What is read is one to eight digits with the letter of a unit**, and it is read as that
many units. -/
theorem parse_eq_some_iff {s : String} {d : Duration} :
    parse s = some d ↔
      ∃ digits unit, Spells s digits unit ∧ d = ⟨Decimal.value digits * unit.nanos⟩ := by
  constructor
  · intro h
    have hread : read s = .ok (some d) := by rw [read_eq_parse, h]
    by_contra hnone
    have hother : ∀ digits unit, ¬ Spells s digits unit := by
      intro digits unit hs
      rw [read_of_spells hs] at hread
      cases hread
      exact hnone ⟨digits, unit, hs, rfl⟩
    rw [read_of_not_spells hother] at hread
    cases hread
  · rintro ⟨digits, unit, hs, rfl⟩
    rw [parse, read_of_spells hs]

/-- **A timeout is read from its grammar and from nothing else.**  The reading of a text comes to an
end, whatever the text is, and never leaves the range of a word; it gives a timeout exactly for one
to eight digits with the letter of a unit, which is that many units to the nanosecond and fits into
64 bits of seconds. -/
theorem read_is_exact (s : String) :
    read s = .ok (parse s) ∧
      (∀ d, parse s = some d ↔
        ∃ digits unit, Spells s digits unit ∧ d.nanos = Decimal.value digits * unit.nanos) ∧
      (parse s = none ↔ ¬ ∃ digits unit, Spells s digits unit) ∧
      ∀ d, parse s = some d → d.secs < wordLimit := by
  refine ⟨read_eq_parse s, fun d => ?_, ?_, fun d hd => ?_⟩
  · rw [parse_eq_some_iff]
    constructor
    · rintro ⟨digits, unit, hs, rfl⟩
      exact ⟨digits, unit, hs, rfl⟩
    · rintro ⟨digits, unit, hs, hd⟩
      exact ⟨digits, unit, hs, congrArg Duration.mk hd⟩
  · constructor
    · rintro hnone ⟨digits, unit, hs⟩
      have hsome := parse_eq_some_iff.mpr ⟨digits, unit, hs, rfl⟩
      rw [hnone] at hsome
      cases hsome
    · intro hother
      rw [parse, read_of_not_spells fun digits unit hs => hother ⟨digits, unit, hs⟩]
  · obtain ⟨digits, unit, hs, rfl⟩ := parse_eq_some_iff.mp hd
    have hcount := value_le_maxCount hs.digit hs.length_le
    have hnanos : Decimal.value digits * unit.nanos ≤ maxCount * TimeUnit.hour.nanos :=
      Nat.mul_le_mul hcount unit.nanos_le_hour
    calc Decimal.value digits * unit.nanos / 1000000000
        ≤ maxCount * TimeUnit.hour.nanos / 1000000000 := Nat.div_le_div_right hnanos
      _ < wordLimit := by decide

/-- The longest timeout that can be spelled. -/
theorem longest_read :
    read "99999999H" = .ok (some (.ofSecs 359999996400)) ∧
      (Duration.ofSecs 359999996400).secs < wordLimit := by
  have hparse : parse "99999999H" = some (.ofSecs 359999996400) := by decide +kernel
  obtain ⟨hread, -, -, hrange⟩ := read_is_exact "99999999H"
  exact ⟨hread.trans (congrArg Except.ok hparse), hrange _ hparse⟩

/-- The last two bytes are one character. -/
example : parse "1é" = none := by decide +kernel

end RpcConformance.Timeout
