import Mathlib.Algebra.Ring.Nat
import RpcConformance.Wire.Basic

/-!
# Fields that are read back

A number is written in groups of seven bits, and reading takes the groups back one by one, so a
number of 64 bits is read back whatever stands behind it.  From numbers this passes to keys, bytes
and texts.  A field is left out when it holds its default, which is the value that the record has
before the field is read, so reading a field that was left out changes nothing.

`Reads` says what reading makes of some bytes with any sufficient fuel; each field is put before the
bytes of the fields behind it.

## Main results

* `readVarint_writeVarint` — a number is read back.
* `readText_writeBytes` — a text is read back.
* `Reads.present`, `Reads.optional` — a field before other fields.
* `readNested_writeBytes`, `decode_of_reads` — whole messages, within another one and alone.
-/

namespace RpcConformance

/-- **A text is read back from its bytes.** -/
theorem Utf8.decode?_encode (s : String) : Utf8.decode? (Utf8.encode s) = some s := by
  have hbytes : (⟨(Utf8.encode s).toArray⟩ : ByteArray) = s.toByteArray := rfl
  rw [Utf8.decode?, hbytes, String.fromUTF8?, dif_pos s.isValidUTF8]
  rfl

namespace Wire

/-! ## Numbers -/

theorem toNat_ofNat_byte {n : Nat} (h : n < 256) : (UInt8.ofNat n).toNat = n :=
  UInt8.toNat_ofNat_of_lt' h

theorem byte_lt_iff {n : Nat} (h : n < 256) : UInt8.ofNat n < 128 ↔ n < 128 := by
  rw [UInt8.lt_iff_toNat_lt, toNat_ofNat_byte h]
  exact Iff.rfl

/-- With so many further bytes to come, a number is read back that needs no more of them; the last
one may not pass 64 bits. -/
theorem readVarintWithin_writeVarint {count n : Nat} (h : n < 2 * 128 ^ count)
    (rest : List UInt8) :
    readVarintWithin (count + 1) (writeVarint n ++ rest) = some (n, rest) := by
  induction count generalizing n with
  | zero =>
      have hn : n < 2 := by simpa using h
      have hsmall : UInt8.ofNat n < 128 := (byte_lt_iff (by omega)).mpr (by omega)
      have hone : ¬ (1 : UInt8) < UInt8.ofNat n := by
        rw [UInt8.lt_iff_toNat_lt, toNat_ofNat_byte (by omega)]
        show ¬ 1 < n
        omega
      rw [writeVarint, if_pos (by omega), List.singleton_append, readVarintWithin, if_pos hsmall,
        if_neg (fun hlast => hone hlast.2), toNat_ofNat_byte (by omega)]
  | succ count ih =>
      rw [writeVarint]
      split
      · rename_i hn
        have hsmall : UInt8.ofNat n < 128 := (byte_lt_iff (by omega)).mpr hn
        rw [List.singleton_append, readVarintWithin, if_pos hsmall,
          if_neg (fun hlast => Nat.succ_ne_zero count hlast.1), toNat_ofNat_byte (by omega)]
      · rename_i hn
        have hlarge : ¬ UInt8.ofNat (n % 128 + 128) < 128 := by
          intro hsmall
          have hlt := (byte_lt_iff (by omega)).mp hsmall
          omega
        have hrest : readVarintWithin (count + 1) (writeVarint (n / 128) ++ rest) =
            some (n / 128, rest) := ih (by rw [Nat.pow_succ] at h; omega)
        have hvalue : (n % 128 + 128) % 128 + 128 * (n / 128) = n := by omega
        rw [List.cons_append, readVarintWithin, if_neg hlarge, hrest, Option.map_some,
          toNat_ofNat_byte (by omega), hvalue]

/-- **A number of 64 bits is read back.** -/
theorem readVarint_writeVarint {n : Nat} (h : n < wordLimit) (rest : List UInt8) :
    readVarint (writeVarint n ++ rest) = .ok (n, rest) := by
  have hlimit : n < 2 * 128 ^ 9 := h
  rw [readVarint, readVarintWithin_writeVarint hlimit]

theorem writeVarint_ne_nil (n : Nat) : writeVarint n ≠ [] := by
  rw [writeVarint]
  split
  · exact List.cons_ne_nil _ _
  · exact List.cons_ne_nil _ _

/-! ## Keys, bytes and texts -/

theorem Kind.ofNumber?_number (k : Kind) : Kind.ofNumber? k.number = some k := by
  cases k <;> rfl

theorem Kind.number_lt (k : Kind) : k.number < 8 := by
  cases k <;> decide

theorem readKey_writeKey {field : Nat} (kind : Kind) (hpos : 0 < field)
    (h : field * 8 + 8 ≤ powerOfTwo 32) (rest : List UInt8) :
    readKey (writeKey field kind ++ rest) = .ok ((field, kind), rest) := by
  have hkind := kind.number_lt
  have hlimit : powerOfTwo 32 < wordLimit := by decide
  have hfield : (field * 8 + kind.number) / 8 = field := by omega
  have hnumber : (field * 8 + kind.number) % 8 = kind.number := by omega
  rw [readKey, writeKey, readVarint_writeVarint (by omega)]
  show (if powerOfTwo 32 ≤ field * 8 + kind.number then _ else _) = _
  rw [if_neg (by omega), hnumber, kind.ofNumber?_number]
  show (if (field * 8 + kind.number) / 8 = 0 then _ else _) = _
  rw [if_neg (by omega), hfield]

theorem readBytes_writeBytes {bytes : List UInt8} (h : bytes.length < wordLimit)
    (rest : List UInt8) : readBytes (writeBytes bytes ++ rest) = .ok (bytes, rest) := by
  rw [readBytes, writeBytes, List.append_assoc, readVarint_writeVarint h]
  show (if bytes.length ≤ (bytes ++ rest).length then _ else _) = _
  rw [if_pos (by rw [List.length_append]; omega), List.take_left, List.drop_left]

theorem readBlob_writeBytes {bytes : List UInt8} (h : bytes.length < wordLimit)
    (rest : List UInt8) :
    readBlob .lengthDelimited (writeBytes bytes ++ rest) = .ok (bytes, rest) := by
  show bare (readBytes _) = _
  rw [readBytes_writeBytes h]
  rfl

/-- **A text is read back.** -/
theorem readText_writeBytes {s : String} (h : (Utf8.encode s).length < wordLimit)
    (rest : List UInt8) :
    readText .lengthDelimited (writeBytes (Utf8.encode s) ++ rest) = .ok (s, rest) := by
  have hkind : expectKind .lengthDelimited .lengthDelimited = .ok () := rfl
  simp only [readText, hkind, readBytes_writeBytes h, Utf8.decode?_encode]

/-- A number of 32 bits is read back from the word with the same bits. -/
theorem readInt32_writeVarint {i : Int} (hlow : -(int32Limit : Int) ≤ i)
    (hhigh : i < int32Limit) (rest : List UInt8) :
    readInt32 .varint (writeVarint (wordOfInt i) ++ rest) = .ok (i, rest) := by
  have hlimit : (int32Limit : Int) = 2147483648 := by decide
  have hbits : Int.bmod (wordOfInt i) (powerOfTwo 32) = i := by
    have hword : (wordOfInt i : Int) = i % 18446744073709551616 := by
      rw [wordOfInt]
      exact Int.toNat_of_nonneg (Int.emod_nonneg i (by decide))
    have hpower : powerOfTwo 32 = 4294967296 := by decide
    rw [hword, hpower, Int.bmod_def]
    split <;> omega
  have hkind : expectKind .varint .varint = .ok () := rfl
  simp only [readInt32, hkind, readVarint_writeVarint (wordOfInt_lt i), hbits]

/-! ## Lengths -/

/-- So many groups of seven bits take so many bytes. -/
theorem length_writeVarint (k : Nat) {n : Nat} (h : n < 128 ^ (k + 1)) :
    (writeVarint n).length ≤ k + 1 := by
  induction k generalizing n with
  | zero =>
      rw [writeVarint, if_pos (by omega)]
      exact Nat.le_refl _
  | succ k ih =>
      rw [writeVarint]
      split
      · exact Nat.succ_le_succ (Nat.zero_le _)
      · have hrest := ih (n := n / 128) (by rw [Nat.pow_succ] at h; omega)
        rw [List.length_cons]
        omega

theorem length_writeBytes_le (bytes : List UInt8) (h : bytes.length < wordLimit) :
    (writeBytes bytes).length ≤ bytes.length + 10 := by
  have hlimit : wordLimit < 128 ^ (9 + 1) := by decide
  have hlength := length_writeVarint 9 (Nat.lt_trans h hlimit)
  rw [writeBytes, List.length_append]
  omega

theorem length_writeKey {number : Nat} (kind : Kind) (h : number < 16) :
    (writeKey number kind).length ≤ 1 := by
  have hkind := kind.number_lt
  exact length_writeVarint 0 (by omega)

theorem length_writeTextField_le {number : Nat} (s : String) (hnumber : number < 16)
    (h : (Utf8.encode s).length < wordLimit) :
    (writeTextField number s).length ≤ (Utf8.encode s).length + 11 := by
  have hkey := length_writeKey .lengthDelimited hnumber
  have hbytes := length_writeBytes_le _ h
  rw [writeTextField]
  split
  · exact Nat.zero_le _
  · rw [List.length_append]
    omega

theorem length_writeBlobField_le {number : Nat} (bytes : List UInt8) (hnumber : number < 16)
    (h : bytes.length < wordLimit) :
    (writeBlobField number bytes).length ≤ bytes.length + 11 := by
  have hkey := length_writeKey .lengthDelimited hnumber
  have hbytes := length_writeBytes_le _ h
  rw [writeBlobField]
  split
  · exact Nat.zero_le _
  · rw [List.length_append]
    omega

theorem length_writeInt32Field_le {number : Nat} (i : Int) (hnumber : number < 16) :
    (writeInt32Field number i).length ≤ 11 := by
  have hkey := length_writeKey .varint hnumber
  have hlimit : wordLimit < 128 ^ (9 + 1) := by decide
  have hword := length_writeVarint 9 (Nat.lt_trans (wordOfInt_lt i) hlimit)
  rw [writeInt32Field]
  split
  · exact Nat.zero_le _
  · rw [List.length_append]
    omega

theorem length_le_writeBytes (bytes : List UInt8) : bytes.length ≤ (writeBytes bytes).length := by
  rw [writeBytes, List.length_append]
  omega

theorem length_le_writeTextField (number : Nat) (s : String) :
    (Utf8.encode s).length ≤ (writeTextField number s).length := by
  have hbytes := length_le_writeBytes (Utf8.encode s)
  rw [writeTextField]
  split
  · rename_i hs
    rw [hs]
    exact Nat.le_refl 0
  · rw [List.length_append]
    omega

theorem length_le_writeBlobField (number : Nat) (bytes : List UInt8) :
    bytes.length ≤ (writeBlobField number bytes).length := by
  have hbytes := length_le_writeBytes bytes
  rw [writeBlobField]
  split
  · rename_i hnone
    exact Nat.le_of_eq (congrArg List.length hnone)
  · rw [List.length_append]
    omega

/-! ## Fields of a record -/

section

variable {α : Type} {reader : FieldReader α} {depth stop : Nat} {a a' b : α}
  {bytes value rest left : List UInt8} {number : Nat} {kind : Kind}

/-- Reading fields into a record makes another one of it and leaves some bytes, with any fuel that
suffices for the bytes. -/
def Reads (reader : FieldReader α) (depth stop : Nat) (a : α) (bytes : List UInt8) (b : α)
    (left : List UInt8) : Prop :=
  ∀ fuel, bytes.length ≤ fuel → readFields reader depth stop fuel a bytes = .ok (b, left)

theorem Reads.nil (h : bytes.length ≤ stop) : Reads reader depth stop a bytes a bytes := by
  intro fuel _
  cases fuel with
  | zero => rfl
  | succ fuel => rw [readFields, if_pos h]

/-- **A field before other fields.** -/
theorem Reads.present (hpos : 0 < number) (hnumber : number * 8 + 8 ≤ powerOfTwo 32)
    (hvalue : reader number kind depth a (value ++ rest) = .ok (a', rest))
    (hrest : Reads reader depth stop a' rest b left) (hstop : stop ≤ rest.length) :
    Reads reader depth stop a (writeKey number kind ++ value ++ rest) b left := by
  intro fuel hfuel
  have hkey : 0 < (writeKey number kind).length := List.length_pos_iff.mpr (writeVarint_ne_nil _)
  rw [List.length_append, List.length_append] at hfuel
  obtain ⟨fuel, rfl⟩ : ∃ f, fuel = f + 1 := ⟨fuel - 1, by omega⟩
  rw [readFields, if_neg (by rw [List.length_append, List.length_append]; omega), List.append_assoc,
    readKey_writeKey kind hpos hnumber]
  simp only [hvalue]
  exact hrest fuel (by omega)

/-- A field that is left out when the record has its value there already. -/
theorem Reads.optional {default : Prop} [Decidable default] (hdefault : default → a = a')
    (hpos : 0 < number) (hnumber : number * 8 + 8 ≤ powerOfTwo 32)
    (hvalue : reader number kind depth a (value ++ rest) = .ok (a', rest))
    (hrest : Reads reader depth stop a' rest b left) (hstop : stop ≤ rest.length) :
    Reads reader depth stop a
      ((if default then [] else writeKey number kind ++ value) ++ rest) b left := by
  split
  · rename_i h
    rw [hdefault h]
    exact hrest
  · exact .present hpos hnumber hvalue hrest hstop

/-! ## Whole messages -/

/-- **A message alone.** -/
theorem decode_of_reads (h : Reads reader maxDepth 0 a bytes b []) :
    decode reader a bytes = .ok b := by
  rw [decode, h bytes.length (Nat.le_refl _)]
  rfl

/-- **A message within another one**, with its length before it. -/
theorem readNested_writeBytes (hdepth : 0 < depth) (hlength : bytes.length < wordLimit)
    (h : Reads reader (depth - 1) rest.length a (bytes ++ rest) b rest) :
    readNested reader a depth (writeBytes bytes ++ rest) = .ok (b, rest) := by
  have hread := h (bytes ++ rest).length (Nat.le_refl _)
  have hstop : (bytes ++ rest).length - bytes.length = rest.length := by
    rw [List.length_append]
    omega
  rw [readNested, if_neg (by omega), writeBytes, List.append_assoc,
    readVarint_writeVarint hlength]
  have hlong : ¬ (bytes ++ rest).length < bytes.length := by
    rw [List.length_append]
    omega
  simp only [if_neg hlong, hstop, hread, if_true]

end

end Wire

end RpcConformance
