import RpcConformance.Proofs.TimeoutCodec

/-!
# Longer deadlines and announced timeouts

A longer timeout is counted in the same unit or in a longer one.  In the same unit it has at least
the same count.  In a longer one it has at least the first count of nine digits of the unit before,
less what is dropped: nothing where a thousand units make the longer one, since a thousand divides
that count, but forty units where sixty do.  So a longer timeout may be announced shorter just
behind the last count of seconds, and just behind the last count of minutes, and nowhere else.

## Main results

* `announced_shorter_iff` — which longer durations are announced shorter, and by how much.
* `longer_announced_shorter` — two durations for which that happens.
-/

namespace RpcConformance.Timeout

namespace TimeUnit

/-! ## Units that follow each other -/

/-- The units of which sixty make the next one. -/
def Sexagesimal (u : TimeUnit) : Prop := u = second ∨ u = minute

/-- The first unit is the one before the second. -/
structure Precedes (v u : TimeUnit) : Prop where
  last : ∀ w : TimeUnit, w.nanos < u.nanos → w.nanos ≤ v.nanos
  ratio : u.nanos = 1000 * v.nanos ∨ v.Sexagesimal ∧ u.nanos = 60 * v.nanos

theorem eq_of_nanos_eq {u v : TimeUnit} (h : u.nanos = v.nanos) : u = v := by
  cases u <;> cases v <;> revert h <;> decide

/-- There is a unit before every one but the finest. -/
theorem exists_precedes {u : TimeUnit} (h : 1 < u.nanos) : ∃ v, Precedes v u := by
  cases u with
  | nanosecond => exact absurd h (Nat.lt_irrefl 1)
  | microsecond => exact ⟨nanosecond, fun w => by cases w <;> decide, Or.inl rfl⟩
  | millisecond => exact ⟨microsecond, fun w => by cases w <;> decide, Or.inl rfl⟩
  | second => exact ⟨millisecond, fun w => by cases w <;> decide, Or.inl rfl⟩
  | minute => exact ⟨second, fun w => by cases w <;> decide, Or.inr ⟨Or.inl rfl, rfl⟩⟩
  | hour => exact ⟨minute, fun w => by cases w <;> decide, Or.inr ⟨Or.inr rfl, rfl⟩⟩

/-- Sixty of a sexagesimal unit make the one behind it. -/
theorem Sexagesimal.exists_next {v : TimeUnit} (h : v.Sexagesimal) :
    ∃ u, Precedes v u ∧ u.nanos = 60 * v.nanos := by
  rcases h with rfl | rfl
  · exact ⟨minute, ⟨fun w => by cases w <;> decide, Or.inr ⟨Or.inl rfl, rfl⟩⟩, rfl⟩
  · exact ⟨hour, ⟨fun w => by cases w <;> decide, Or.inr ⟨Or.inr rfl, rfl⟩⟩, rfl⟩

theorem Sexagesimal.one_lt {v : TimeUnit} (h : v.Sexagesimal) : 1 < v.nanos := by
  rcases h with rfl | rfl <;> decide

end TimeUnit

open TimeUnit

/-! ## Where a unit is taken -/

/-- The first length of time whose count of a unit has nine digits. -/
def limit (u : TimeUnit) : Nat := (maxCount + 1) * u.nanos

theorem limit_le {v u : TimeUnit} (h : v.nanos ≤ u.nanos) : limit v ≤ limit u :=
  Nat.mul_le_mul_left _ h

theorem lt_limit_of_unit {d : Duration} {u : TimeUnit} (h : unitFor? d = some u) :
    d.nanos < limit u := by
  have hfits : d.nanos / u.nanos ≤ maxCount := (unitFor?_eq_some h).1
  exact (Nat.div_lt_iff_lt_mul u.nanos_pos).mp (Nat.lt_succ_of_le hfits)

theorem limit_le_of_unit {d : Duration} {u v : TimeUnit} (h : unitFor? d = some u)
    (hv : v.nanos < u.nanos) : limit v ≤ d.nanos := by
  have hmore : maxCount < d.nanos / v.nanos := (unitFor?_eq_some h).2 v hv
  exact (Nat.le_div_iff_mul_le v.nanos_pos).mp hmore

/-- A unit is taken from the limit of the one before it to its own. -/
theorem unitFor?_of_range {d : Duration} {v u : TimeUnit} (hprecedes : Precedes v u)
    (hlong : limit v ≤ d.nanos) (hshort : d.nanos < limit u) : unitFor? d = some u := by
  cases hw : unitFor? d with
  | none =>
      have hhours : limit .hour ≤ d.nanos := unitFor?_eq_none_iff.mp hw
      have hle := limit_le u.nanos_le_hour
      omega
  | some w =>
      rcases Nat.lt_trichotomy w.nanos u.nanos with hfiner | hsame | hlonger
      · have hle := limit_le (hprecedes.last w hfiner)
        have hlt := lt_limit_of_unit hw
        omega
      · rw [eq_of_nanos_eq hsame]
      · have hle := limit_le_of_unit hw hlonger
        omega

/-- A longer duration is counted in the same unit or in a longer one. -/
theorem unit_mono {d₁ d₂ : Duration} (h : d₁ ≤ d₂) {u₂ : TimeUnit} (h₂ : unitFor? d₂ = some u₂) :
    ∃ u₁, unitFor? d₁ = some u₁ ∧ u₁.nanos ≤ u₂.nanos := by
  have hle : d₁.nanos ≤ d₂.nanos := h
  have hlt := lt_limit_of_unit h₂
  cases h₁ : unitFor? d₁ with
  | none =>
      have hhours : limit .hour ≤ d₁.nanos := unitFor?_eq_none_iff.mp h₁
      have hunit := limit_le u₂.nanos_le_hour
      omega
  | some u₁ =>
      refine ⟨u₁, rfl, ?_⟩
      by_contra hlonger
      have hlimit := limit_le_of_unit h₁ (Nat.lt_of_not_le hlonger)
      omega

/-! ## What is written on both sides of a limit -/

theorem written_of_unit {d : Duration} {u : TimeUnit} (h : unitFor? d = some u) :
    (written d).nanos = d.nanos / u.nanos * u.nanos := by
  rw [written, counted_of_some h]

/-- Everything that is written in a unit is at most its largest count. -/
theorem written_le_of_unit {d : Duration} {u : TimeUnit} (h : unitFor? d = some u) :
    (written d).nanos ≤ 99999999 * u.nanos := by
  rw [written_of_unit h]
  exact Nat.mul_le_mul_right _ (unitFor?_eq_some h).1

/-- Two durations on both sides of the limit of a unit: the first within the last thirty-nine units
before it, the second within the twenty behind it. -/
structure Straddles (u : TimeUnit) (d₁ d₂ : Duration) : Prop where
  near : 99999961 * u.nanos ≤ d₁.nanos
  below : d₁.nanos < 100000000 * u.nanos
  above : 100000000 * u.nanos ≤ d₂.nanos
  close : d₂.nanos < 100000020 * u.nanos

theorem Straddles.written_first {v : TimeUnit} {d₁ d₂ : Duration} (h : Straddles v d₁ d₂)
    (hv : v.Sexagesimal) :
    99999961 * v.nanos ≤ (written d₁).nanos ∧ (written d₁).nanos ≤ 99999999 * v.nanos := by
  obtain ⟨w, hw⟩ := exists_precedes hv.one_lt
  have hlong : limit w ≤ d₁.nanos := by
    have hnear := h.near
    have hlimit : limit w = 100000000 * w.nanos := rfl
    rcases hw.ratio with hratio | ⟨-, hratio⟩ <;> omega
  have hunit : unitFor? d₁ = some v := unitFor?_of_range hw hlong h.below
  refine ⟨?_, written_le_of_unit hunit⟩
  rw [written_of_unit hunit]
  exact Nat.mul_le_mul_right _ ((Nat.le_div_iff_mul_le v.nanos_pos).mpr h.near)

theorem Straddles.written_second {v : TimeUnit} {d₁ d₂ : Duration} (h : Straddles v d₁ d₂)
    (hv : v.Sexagesimal) : (written d₂).nanos = 99999960 * v.nanos := by
  obtain ⟨u, hu, hratio⟩ := hv.exists_next
  have hshort : d₂.nanos < limit u := by
    have hclose := h.close
    have hlimit : limit u = 100000000 * u.nanos := rfl
    omega
  have hunit : unitFor? d₂ = some u := unitFor?_of_range hu h.above hshort
  have hcount : d₂.nanos / u.nanos = 1666666 := by
    have habove := h.above
    have hclose := h.close
    apply Nat.div_eq_of_lt_le <;> omega
  rw [written_of_unit hunit, hcount, hratio]
  omega

/-- Where a thousand units make the longer one, nothing of the limit is dropped. -/
theorem limit_le_written {d : Duration} {v u : TimeUnit} (hunit : unitFor? d = some u)
    (hlong : limit v ≤ d.nanos) (hratio : u.nanos = 1000 * v.nanos) :
    limit v ≤ (written d).nanos := by
  have hlimit : limit v = 100000 * u.nanos := by
    have hdef : limit v = 100000000 * v.nanos := rfl
    omega
  rw [written_of_unit hunit, hlimit]
  rw [hlimit] at hlong
  exact Nat.mul_le_mul_right _ ((Nat.le_div_iff_mul_le u.nanos_pos).mpr hlong)

/-- Where sixty units make the longer one, all but forty of the limit are written. -/
theorem near_limit_le_written {d : Duration} {v u : TimeUnit} (hunit : unitFor? d = some u)
    (hlong : limit v ≤ d.nanos) (hratio : u.nanos = 60 * v.nanos) :
    99999960 * v.nanos ≤ (written d).nanos := by
  have hdef : limit v = 100000000 * v.nanos := rfl
  have hwhole : 1666666 * u.nanos ≤ d.nanos := by omega
  have hcount : 1666666 ≤ d.nanos / u.nanos := (Nat.le_div_iff_mul_le u.nanos_pos).mpr hwhole
  rw [written_of_unit hunit]
  calc 99999960 * v.nanos = 1666666 * u.nanos := by omega
    _ ≤ d.nanos / u.nanos * u.nanos := Nat.mul_le_mul_right _ hcount

/-- A duration that is written as more than all but forty of the limit of a unit, and as less than
the limit, is counted in that unit. -/
theorem unit_of_near_limit {d : Duration} {w v : TimeUnit} (hunit : unitFor? d = some w)
    (hfiner : w.nanos ≤ v.nanos) (hnear : 99999960 * v.nanos < (written d).nanos) : w = v := by
  apply eq_of_nanos_eq
  by_contra hne
  have hless : w.nanos < v.nanos := by omega
  have hpos := w.nanos_pos
  obtain ⟨before, hbefore⟩ := exists_precedes (show 1 < v.nanos by omega)
  have hlast := hbefore.last w hless
  have hmost := written_le_of_unit hunit
  rcases hbefore.ratio with hratio | ⟨-, hratio⟩ <;> omega

/-- Where sixty units make the longer one, a longer duration is announced shorter only across the
limit. -/
theorem straddles_of_lt {d₁ d₂ : Duration} {w v u : TimeUnit} (h₁ : unitFor? d₁ = some w)
    (h₂ : unitFor? d₂ = some u) (hfiner : w.nanos ≤ v.nanos) (hlong : limit v ≤ d₂.nanos)
    (hratio : u.nanos = 60 * v.nanos) (hlt : written d₂ < written d₁) :
    Straddles v d₁ d₂ := by
  have hlt : (written d₂).nanos < (written d₁).nanos := hlt
  have hpos := v.nanos_pos
  have hleast := near_limit_le_written h₂ hlong hratio
  obtain rfl : w = v := unit_of_near_limit h₁ hfiner (by omega)
  have hfirst : 99999961 ≤ d₁.nanos / w.nanos := by
    by_contra hfew
    have hle : d₁.nanos / w.nanos * w.nanos ≤ 99999960 * w.nanos :=
      Nat.mul_le_mul_right _ (by omega)
    rw [← written_of_unit h₁] at hle
    omega
  have hsecond : d₂.nanos / u.nanos < 1666667 := by
    have hmost := written_le_of_unit h₁
    have hless : d₂.nanos / u.nanos * u.nanos < 1666667 * u.nanos := by
      rw [← written_of_unit h₂]
      omega
    exact Nat.lt_of_mul_lt_mul_right hless
  have hclose : d₂.nanos < 1666667 * u.nanos := (Nat.div_lt_iff_lt_mul u.nanos_pos).mp hsecond
  exact {
    near := (Nat.le_div_iff_mul_le w.nanos_pos).mp hfirst
    below := lt_limit_of_unit h₁
    above := hlong
    close := by omega }

/-! ## The order of what is announced -/

/-- The longest timeout of all is announced for the longest durations. -/
theorem written_le_hours (d : Duration) : written d ≤ hours maxCount :=
  Nat.mul_le_mul (counted_le d) (counted d).2.nanos_le_hour

theorem exists_straddles {d₁ d₂ : Duration} (h : d₁ ≤ d₂) (hlt : written d₂ < written d₁) :
    ∃ u : TimeUnit, u.Sexagesimal ∧ Straddles u d₁ d₂ := by
  cases h₂ : unitFor? d₂ with
  | none =>
      rw [written_of_long (unitFor?_eq_none_iff.mp h₂)] at hlt
      exact absurd (written_le_hours d₁) (Nat.not_le.mpr hlt)
  | some u =>
      obtain ⟨w, h₁, hle⟩ := unit_mono h h₂
      rcases Nat.lt_or_eq_of_le hle with hless | hsame
      · have hpos := w.nanos_pos
        obtain ⟨v, hv⟩ := exists_precedes (show 1 < u.nanos by omega)
        have hfiner := hv.last w hless
        have hlong : limit v ≤ d₂.nanos := by
          apply limit_le_of_unit h₂
          have hposv := v.nanos_pos
          rcases hv.ratio with hratio | ⟨-, hratio⟩ <;> omega
        rcases hv.ratio with hratio | ⟨hsexagesimal, hratio⟩
        · -- a thousand to one: the first count of nine digits is written whole
          have hwhole := limit_le_written h₂ hlong hratio
          have hmost := lt_limit_of_unit h₁
          have hlimit := limit_le hfiner
          have hwritten : (written d₁).nanos ≤ d₁.nanos := written_le d₁
          have hlt : (written d₂).nanos < (written d₁).nanos := hlt
          omega
        · exact ⟨v, hsexagesimal, straddles_of_lt h₁ h₂ hfiner hlong hratio hlt⟩
      · obtain rfl := eq_of_nanos_eq hsame
        have hcounts : d₁.nanos / w.nanos ≤ d₂.nanos / w.nanos := Nat.div_le_div_right h
        have hle : (written d₁).nanos ≤ (written d₂).nanos := by
          rw [written_of_unit h₁, written_of_unit h₂]
          exact Nat.mul_le_mul_right _ hcounts
        exact absurd hlt (Nat.not_lt.mpr hle)

/-- **A longer duration is announced as a shorter timeout only where the two straddle the limit of
the seconds or of the minutes**, and there it always is, by at most thirty-nine of these. -/
theorem announced_shorter_iff {d₁ d₂ : Duration} (h : d₁ ≤ d₂) :
    ∃ e₁ e₂ : Duration, parse (encode d₁) = some e₁ ∧ parse (encode d₂) = some e₂ ∧
      (e₂ < e₁ ↔ ∃ u : TimeUnit, u.Sexagesimal ∧ Straddles u d₁ d₂) ∧
      ∀ u : TimeUnit, u.Sexagesimal → Straddles u d₁ d₂ → e₁.nanos ≤ e₂.nanos + 39 * u.nanos := by
  refine ⟨written d₁, written d₂, parse_encode d₁, parse_encode d₂, ⟨exists_straddles h, ?_⟩, ?_⟩
  · rintro ⟨u, hu, hstraddles⟩
    have hfirst := (hstraddles.written_first hu).1
    have hsecond := hstraddles.written_second hu
    have hpos := u.nanos_pos
    show (written d₂).nanos < (written d₁).nanos
    omega
  · intro u hu hstraddles
    have hfirst := (hstraddles.written_first hu).2
    have hsecond := hstraddles.written_second hu
    omega

/-- The two durations on both sides of the limit of the minutes that are the furthest apart. -/
theorem minutes_announced_as_hours :
    ∃ e₁ e₂ : Duration,
      parse (encode ⟨99999999 * TimeUnit.minute.nanos⟩) = some e₁ ∧
      parse (encode ⟨100000000 * TimeUnit.minute.nanos⟩) = some e₂ ∧ e₂ < e₁ ∧
      e₁.nanos ≤ e₂.nanos + 39 * TimeUnit.minute.nanos := by
  have hstraddles : Straddles .minute ⟨99999999 * TimeUnit.minute.nanos⟩
      ⟨100000000 * TimeUnit.minute.nanos⟩ := ⟨by decide, by decide, by decide, by decide⟩
  obtain ⟨e₁, e₂, h₁, h₂, hiff, hbound⟩ := announced_shorter_iff
    (show (⟨99999999 * TimeUnit.minute.nanos⟩ : Duration) ≤ ⟨100000000 * TimeUnit.minute.nanos⟩
      by decide)
  exact ⟨e₁, e₂, h₁, h₂, hiff.mpr ⟨.minute, Or.inr rfl, hstraddles⟩,
    hbound .minute (Or.inr rfl) hstraddles⟩

/-- A second more than the largest count of seconds is announced as thirty-nine seconds less. -/
theorem longer_announced_shorter :
    Duration.ofSecs 99999999 ≤ .ofSecs 100000000 ∧
      parse (encode (.ofSecs 99999999)) = some (.ofSecs 99999999) ∧
      parse (encode (.ofSecs 100000000)) = some (.ofSecs 99999960) ∧
      ¬ Duration.ofSecs 99999999 ≤ .ofSecs 99999960 :=
  ⟨by decide, by decide +kernel, by decide +kernel, by decide⟩

end RpcConformance.Timeout
