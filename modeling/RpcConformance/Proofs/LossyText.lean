import RpcConformance.Proofs.HeaderText

/-!
# Lossy reading of ASCII texts

Reading bytes with replacements loses which bytes were malformed, but nothing of an ASCII text: what
is read from a byte outside ASCII is never an ASCII character, neither as part of a sequence nor as
a replacement.  So an ASCII text is read from its own bytes only.

## Main results

* `Utf8.le_of_step` — a sequence that starts outside ASCII gives a character outside ASCII.
* `Utf8.lossy_eq_iff` — an ASCII text is read from its bytes, and from no others.
-/

namespace RpcConformance.Utf8

/-! ## Sequences -/

theorem toNat_ofNat {n : Nat} (h : n.isValidChar) : (Char.ofNat n).toNat = n := by
  rw [Char.ofNat, dif_pos h]
  rfl

theorem within_of_secondOfThree {a b : UInt8} (h : secondOfThree a b = true) :
    128 ≤ b.toNat ∧ b.toNat ≤ 191 ∧ (a.toNat = 224 → 160 ≤ b.toNat) ∧
      (a.toNat = 237 → b.toNat ≤ 159) := by
  simp [secondOfThree, isContinuation, UInt8.le_iff_toNat_le, ← UInt8.toNat_inj] at h
  grind

theorem within_of_secondOfFour {a b : UInt8} (h : secondOfFour a b = true) :
    128 ≤ b.toNat ∧ b.toNat ≤ 191 ∧ (a.toNat = 240 → 144 ≤ b.toNat) ∧
      (a.toNat = 244 → b.toNat ≤ 143) := by
  simp [secondOfFour, isContinuation, UInt8.le_iff_toNat_le, ← UInt8.toNat_inj] at h
  grind

theorem le_ofTwo {a b : UInt8} (ha : (0xC2 ≤ a && a ≤ 0xDF) = true) :
    128 ≤ (Char.ofNat (a.toNat % 32 * 64 + low b)).toNat := by
  simp [UInt8.le_iff_toNat_le] at ha
  have hb : low b < 64 := Nat.mod_lt _ (by decide)
  rw [toNat_ofNat (Or.inl (by omega))]
  omega

/-- A sequence of three bytes gives no surrogate, so its character is the one of its number. -/
theorem le_ofThree {a b c : UInt8} (ha : (0xE0 ≤ a && a ≤ 0xEF) = true)
    (hb : secondOfThree a b = true) :
    128 ≤ (Char.ofNat ((a.toNat % 16 * 64 + low b) * 64 + low c)).toNat := by
  simp [UInt8.le_iff_toNat_le] at ha
  obtain ⟨hfrom, hto, hoverlong, hsurrogate⟩ := within_of_secondOfThree hb
  have hlow : low b = b.toNat % 64 := rfl
  have hc : low c < 64 := Nat.mod_lt _ (by decide)
  have hvalid : ((a.toNat % 16 * 64 + low b) * 64 + low c).isValidChar := by
    by_cases hlast : a.toNat ≤ 237
    · exact Or.inl (by omega)
    · exact Or.inr ⟨by omega, by omega⟩
  rw [toNat_ofNat hvalid]
  omega

/-- A sequence of four bytes stays below the last character. -/
theorem le_ofFour {a b c d : UInt8} (ha : (0xF0 ≤ a && a ≤ 0xF4) = true)
    (hb : secondOfFour a b = true) :
    128 ≤ (Char.ofNat (((a.toNat % 8 * 64 + low b) * 64 + low c) * 64 + low d)).toNat := by
  simp [UInt8.le_iff_toNat_le] at ha
  obtain ⟨hfrom, hto, hoverlong, hlast⟩ := within_of_secondOfFour hb
  have hlow : low b = b.toNat % 64 := rfl
  have hc : low c < 64 := Nat.mod_lt _ (by decide)
  have hd : low d < 64 := Nat.mod_lt _ (by decide)
  rw [toNat_ofNat (Or.inr ⟨by omega, by omega⟩)]
  omega

/-- **A sequence that starts outside ASCII** gives a character outside ASCII. -/
theorem le_of_step {a : UInt8} {rest rest' : List UInt8} {c : Char} (ha : ¬a < 0x80)
    (hstep : step a rest = .char c rest') : 128 ≤ c.toNat := by
  revert hstep
  fun_cases step a rest
  case case1 hascii => exact absurd hascii ha
  -- the sequences of two, three and four bytes; everything else gives no character
  case case3 htwo b _ _ =>
    rintro ⟨⟩
    exact le_ofTwo htwo
  case case8 hthree b hsecond c _ _ =>
    rintro ⟨⟩
    exact le_ofThree hthree (by simpa using hsecond)
  case case15 hfour b hsecond c _ d _ _ =>
    rintro ⟨⟩
    exact le_ofFour hfour (by simpa using hsecond)
  all_goals exact nofun

/-! ## Texts -/

theorem lossyChars_ascii {bytes : List UInt8} (h : ∀ b ∈ bytes, b < 0x80) :
    lossyChars bytes.length bytes = bytes.map fun b => Char.ofNat b.toNat := by
  induction bytes with
  | nil => rfl
  | cons a rest ih =>
      have hstep : step a rest = .char (Char.ofNat a.toNat) rest :=
        if_pos (h a List.mem_cons_self)
      have hrest := ih fun b hb => h b (List.mem_cons_of_mem a hb)
      rw [List.length_cons, lossyChars, hstep, List.map_cons, ← hrest]

theorem ascii_of_lossyChars {bytes : List UInt8}
    (h : ∀ c ∈ lossyChars bytes.length bytes, c.toNat < 128) : ∀ b ∈ bytes, b < 0x80 := by
  induction bytes with
  | nil => simp
  | cons a rest ih =>
      have hreplacement : replacement.toNat = 65533 := by decide
      by_cases ha : a < 0x80
      · have hstep : step a rest = .char (Char.ofNat a.toNat) rest := if_pos ha
        rw [List.length_cons, lossyChars, hstep] at h
        intro b hb
        rcases List.mem_cons.mp hb with rfl | hb
        · exact ha
        · exact ih (fun c hc => h c (List.mem_cons_of_mem _ hc)) b hb
      · rw [List.length_cons, lossyChars] at h
        cases hstep : step a rest with
        | char c rest' =>
            have hc := h c (by rw [hstep]; exact List.mem_cons_self)
            have hle := le_of_step ha hstep
            omega
        | malformed n rest' =>
            have hc := h replacement (by rw [hstep]; exact List.mem_cons_self)
            omega
        | cut =>
            have hc := h replacement (by rw [hstep]; exact List.mem_cons_self)
            omega

/-- **An ASCII text is read from its bytes**, and from no others. -/
theorem lossy_eq_iff {s : String} (hs : ∀ c ∈ s.toList, c.toNat < 128) (bytes : List UInt8) :
    lossy bytes = s ↔ bytes = encode s := by
  rw [HeaderValue.encode_ascii hs]
  constructor
  · rintro rfl
    rw [lossy, String.toList_ofList] at hs ⊢
    have hascii := ascii_of_lossyChars hs
    rw [lossyChars_ascii hascii, List.map_map]
    exact (List.map_id'' HeaderValue.byte_char bytes).symm
  · intro h
    have hascii : ∀ b ∈ bytes, b < 0x80 := by
      intro b hb
      rw [h] at hb
      obtain ⟨c, hc, rfl⟩ := List.mem_map.mp hb
      rw [UInt8.lt_iff_toNat_lt, HeaderValue.toNat_byte (hs c hc)]
      exact hs c hc
    rw [lossy, lossyChars_ascii hascii, h, List.map_map]
    conv => rhs; rw [← String.ofList_toList (s := s), ← List.map_id s.toList]
    congr 1
    apply List.map_congr_left
    intro c hc
    show Char.ofNat (UInt8.ofNat c.toNat).toNat = c
    rw [HeaderValue.toNat_byte (hs c hc), Char.ofNat_toNat]

end RpcConformance.Utf8
