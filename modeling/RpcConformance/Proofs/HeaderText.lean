import RpcConformance.Metadata

/-!
# Texts that travel as header values

A text is accepted as a header value when every character of it is visible ASCII, a space or a
tab, and then the value is read back as that text.

## Main results

* `HeaderValue.ofAscii_of_textChars` — such a text is accepted.
* `HeaderValue.text?_of_ofAscii` — an accepted text is read back.
-/

namespace RpcConformance.HeaderValue

/-- A character that a text value may hold: visible ASCII, the space and the tab. -/
def IsTextChar (c : Char) : Prop := c.toNat = 9 ∨ (0x20 ≤ c.toNat ∧ c.toNat ≤ 0x7E)

theorem bytes_ofText (s : String) : (ofText s).bytes = s.toList.flatMap String.utf8EncodeChar := by
  rw [ofText, Utf8.encode, String.toUTF8, ← String.utf8Encode_toList, List.utf8Encode,
    List.toList_data_toByteArray]

theorem utf8EncodeChar_ascii {c : Char} (h : c.toNat < 128) :
    String.utf8EncodeChar c = [UInt8.ofNat c.toNat] := by
  have hval : c.val.toNat ≤ 127 := Nat.le_of_lt_succ h
  simp only [String.utf8EncodeChar, if_pos hval]
  rfl

/-- An ASCII text travels as the bytes of its characters. -/
theorem bytes_ofText_ascii {s : String} (h : ∀ c ∈ s.toList, c.toNat < 128) :
    (ofText s).bytes = s.toList.map fun c => UInt8.ofNat c.toNat := by
  rw [bytes_ofText]
  generalize s.toList = cs at h ⊢
  induction cs with
  | nil => rfl
  | cons c rest ih =>
      have hc := utf8EncodeChar_ascii (h c List.mem_cons_self)
      have hrest := ih fun d hd => h d (List.mem_cons_of_mem c hd)
      rw [List.flatMap_cons, hc, hrest]
      rfl

theorem encode_ascii {s : String} (h : ∀ c ∈ s.toList, c.toNat < 128) :
    Utf8.encode s = s.toList.map fun c => UInt8.ofNat c.toNat :=
  bytes_ofText_ascii h

/-- An ASCII text takes one byte for every character. -/
theorem length_encode_ascii {s : String} (h : ∀ c ∈ s.toList, c.toNat < 128) :
    (Utf8.encode s).length = s.toList.length := by
  rw [encode_ascii h, List.length_map]

/-- The byte of an ASCII character stands for that character. -/
theorem toNat_byte {c : Char} (h : c.toNat < 128) : (UInt8.ofNat c.toNat).toNat = c.toNat :=
  UInt8.toNat_ofNat_of_lt' (by show c.toNat < 256; omega)

/-- The byte of a character of one byte. -/
theorem byte_char (b : UInt8) : UInt8.ofNat (Char.ofNat b.toNat).toNat = b := by
  have hb : b.toNat < 256 := b.toNat_lt
  have hvalid : b.toNat.isValidChar := Or.inl (by omega)
  rw [Char.ofNat, dif_pos hvalid]
  exact UInt8.ofNat_toNat

theorem isTextByte_iff {c : Char} (h : c.toNat < 128) :
    isTextByte (UInt8.ofNat c.toNat) = true ↔ IsTextChar c := by
  have hbyte := toNat_byte h
  simp only [isTextByte, IsTextChar, Bool.or_eq_true, beq_iff_eq, Bool.and_eq_true,
    decide_eq_true_eq, UInt8.le_iff_toNat_le, ← UInt8.toNat_inj, hbyte]
  exact Iff.rfl

/-- **A text of text characters is accepted.** -/
theorem ofAscii_of_textChars {s : String} (h : ∀ c ∈ s.toList, IsTextChar c) :
    ofAscii s = .ok (ofText s) := by
  have hascii : ∀ c ∈ s.toList, c.toNat < 128 := by
    intro c hc
    have := h c hc
    unfold IsTextChar at this
    omega
  have hnone : s.toList.any (128 ≤ ·.toNat) = false := by
    rw [List.any_eq_false]
    intro c hc
    have := hascii c hc
    simp only [decide_eq_true_eq]
    omega
  have hbytes : (ofText s).bytes.all isTextByte = true := by
    rw [bytes_ofText_ascii hascii, List.all_map, List.all_eq_true]
    intro c hc
    exact (isTextByte_iff (hascii c hc)).mpr (h c hc)
  rw [ofAscii, hnone, hbytes]
  rfl

/-- A text that is accepted is ASCII. -/
theorem ascii_of_ofAscii {s : String} {v : HeaderValue} (h : ofAscii s = .ok v) :
    ∀ c ∈ s.toList, c.toNat < 128 := by
  unfold ofAscii at h
  split at h
  · cases h
  · rename_i hascii
    intro c hc
    simp only [List.any_eq_true, decide_eq_true_eq, not_exists, not_and] at hascii
    have := hascii c hc
    omega

/-- **An accepted text is read back.** -/
theorem text?_of_ofAscii {s : String} {v : HeaderValue} (h : ofAscii s = .ok v) :
    v.text? = some s := by
  have hsmall := ascii_of_ofAscii h
  unfold ofAscii at h
  split at h
  · cases h
  · split at h
    · rename_i hbytes
      cases h
      have hchars : (ofText s).bytes.map (fun b => Char.ofNat b.toNat) = s.toList := by
        rw [bytes_ofText_ascii hsmall, List.map_map]
        conv => rhs; rw [← List.map_id s.toList]
        apply List.map_congr_left
        intro c hc
        show Char.ofNat (UInt8.ofNat c.toNat).toNat = c
        rw [toNat_byte (hsmall c hc), Char.ofNat_toNat]
      rw [text?, if_pos hbytes, hchars, String.ofList_toList]
    · cases h

end RpcConformance.HeaderValue
