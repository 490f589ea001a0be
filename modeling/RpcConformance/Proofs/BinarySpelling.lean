import Mathlib.Data.List.DropRight
import RpcConformance.Proofs.EchoValues

/-!
# The spellings of a binary value

A byte string is written in one way, without padding.  It is read from that text and from the
text completed with `=`, and from nothing else: a text that can be read has only symbols before
its padding, the groups of six bits that they stand for are those of the bytes read, because
bits left over must be zero, and there is no more padding than the last group has room for.  So
a text is read as a byte string exactly when it is the written form of it without the `=` at its
end, and no longer than that form completed.

A call that echoes decodes the trailing values of its request and writes them again.  What it
returns are therefore the readable values without their padding, and returning those once more
changes nothing.

## Main results

* `Base64.decode?_eq_some_iff` — the texts that are read as a byte string.
* `HeaderValue.binary?_eq_some_iff` — the same of header values.
* `Echo.getAll_addTrailers_ofMetadata` — what is returned of the trailing values.
* `HeaderValue.unpadded_spelling_is_unique` — one unpadded spelling for every byte string, and
  an echo that keeps to it.
-/

namespace RpcConformance

namespace Base64

/-! ## From symbols to groups -/

/-- A character that has a value is the symbol of that value. -/
theorem symbol_of_symbolValue? {c : Char} {n : Nat} (h : symbolValue? c = some n) :
    n < 64 ∧ symbol n = c := by
  have hc : Char.ofNat c.toNat = c := Char.ofNat_toNat c
  unfold symbolValue? at h
  simp only at h
  split at h
  · cases h
    refine ⟨by omega, ?_⟩
    rw [symbol, if_pos (by omega), show 65 + (c.toNat - 65) = c.toNat by omega, hc]
  · split at h
    · cases h
      refine ⟨by omega, ?_⟩
      rw [symbol, if_neg (by omega), if_pos (by omega),
        show 71 + (c.toNat - 71) = c.toNat by omega, hc]
    · split at h
      · cases h
        refine ⟨by omega, ?_⟩
        rw [symbol, if_neg (by omega), if_neg (by omega), if_pos (by omega),
          show c.toNat + 4 - 4 = c.toNat by omega, hc]
      · split at h
        · rename_i hplus
          cases h
          exact ⟨by decide, hplus.symm⟩
        · split at h
          · rename_i hslash
            cases h
            exact ⟨by decide, hslash.symm⟩
          · cases h

theorem eq_symbols_of_mapM {text : List Char} {groups : List Nat}
    (h : text.mapM symbolValue? = some groups) :
    (∀ n ∈ groups, n < 64) ∧ text = groups.map symbol := by
  induction text generalizing groups with
  | nil =>
      cases h
      exact ⟨nofun, rfl⟩
  | cons c rest ih =>
      rw [List.mapM_cons] at h
      obtain ⟨n, hn, h⟩ := Option.bind_eq_some_iff.mp h
      obtain ⟨others, hothers, h⟩ := Option.bind_eq_some_iff.mp h
      cases h
      obtain ⟨hlt, rfl⟩ := ih hothers
      obtain ⟨hlow, rfl⟩ := symbol_of_symbolValue? hn
      exact ⟨List.forall_mem_cons.mpr ⟨hlow, hlt⟩, rfl⟩

/-! ## From groups to bytes

The bits of a byte come from two neighbouring groups.  Each byte is below 256 because the groups
are below 64, so it is found as a number, and the groups are then found from the numbers. -/

section

variable {a b c d : Nat}

theorem toNat_highByte (ha : a < 64) (hb : b < 64) :
    (UInt8.ofNat (a * 4 + b / 16)).toNat = a * 4 + b / 16 :=
  UInt8.toNat_ofNat'.trans (Nat.mod_eq_of_lt (by omega))

theorem toNat_middleByte (b : Nat) (hc : c < 64) :
    (UInt8.ofNat (b % 16 * 16 + c / 4)).toNat = b % 16 * 16 + c / 4 :=
  UInt8.toNat_ofNat'.trans (Nat.mod_eq_of_lt (by omega))

theorem toNat_lowByte (c : Nat) (hd : d < 64) :
    (UInt8.ofNat (c % 4 * 64 + d)).toNat = c % 4 * 64 + d :=
  UInt8.toNat_ofNat'.trans (Nat.mod_eq_of_lt (by omega))

end

/-- Groups that can be regrouped are those of the bytes that they give. -/
theorem eq_sextets_of_regroup? {groups : List Nat} {bytes : List UInt8}
    (hlt : ∀ n ∈ groups, n < 64) (h : regroup? groups = some bytes) : groups = sextets bytes := by
  induction groups using regroup?.induct generalizing bytes with
  | case1 =>
      cases h
      rfl
  | case2 => cases h
  | case3 a b hzero =>
      simp only [List.forall_mem_cons] at hlt
      obtain ⟨ha, hb, -⟩ := hlt
      rw [regroup?, if_pos hzero] at h
      cases h
      rw [sextets, toNat_highByte ha hb, show (a * 4 + b / 16) / 4 = a by omega,
        show (a * 4 + b / 16) % 4 * 16 = b by omega]
  | case4 a b hrest =>
      rw [regroup?, if_neg hrest] at h
      cases h
  | case5 a b c hzero =>
      simp only [List.forall_mem_cons] at hlt
      obtain ⟨ha, hb, hc, -⟩ := hlt
      rw [regroup?, if_pos hzero] at h
      cases h
      rw [sextets, toNat_highByte ha hb, toNat_middleByte b hc,
        show (a * 4 + b / 16) / 4 = a by omega,
        show (a * 4 + b / 16) % 4 * 16 + (b % 16 * 16 + c / 4) / 16 = b by omega,
        show (b % 16 * 16 + c / 4) % 16 * 4 = c by omega]
  | case6 a b c hrest =>
      rw [regroup?, if_neg hrest] at h
      cases h
  | case7 a b c d rest ih =>
      simp only [List.forall_mem_cons] at hlt
      obtain ⟨ha, hb, hc, hd, hrest⟩ := hlt
      rw [regroup?] at h
      obtain ⟨others, hothers, rfl⟩ := Option.map_eq_some_iff.mp h
      rw [sextets, toNat_highByte ha hb, toNat_middleByte b hc, toNat_lowByte c hd,
        ← ih hrest hothers, show (a * 4 + b / 16) / 4 = a by omega,
        show (a * 4 + b / 16) % 4 * 16 + (b % 16 * 16 + c / 4) / 16 = b by omega,
        show (b % 16 * 16 + c / 4) % 16 * 4 + (c % 4 * 64 + d) / 64 = c by omega,
        show (c % 4 * 64 + d) % 64 = d by omega]

/-! ## From texts to bytes -/

/-- **A text is read as a byte string exactly when** it is the written form of it, with no more
padding behind than completes the last group. -/
theorem decode?_eq_some_iff {text : List Char} {bytes : List UInt8} :
    decode? text = some bytes ↔
      ∃ k ≤ paddingAllowed (encode bytes).length, text = encode bytes ++ List.replicate k '=' := by
  constructor
  · intro h
    unfold decode? at h
    simp only at h
    split at h
    · rename_i hpadding
      obtain ⟨hall, hlength⟩ := hpadding
      obtain ⟨groups, hgroups, hbytes⟩ := Option.bind_eq_some_iff.mp h
      obtain ⟨hlt, hsymbols⟩ := eq_symbols_of_mapM hgroups
      have hencoded : text.takeWhile (· ≠ '=') = encode bytes := by
        rw [hsymbols, eq_sextets_of_regroup? hlt hbytes, encode_eq_map]
      have hrest : text.dropWhile (· ≠ '=') =
          List.replicate (text.dropWhile (· ≠ '=')).length '=' :=
        List.eq_replicate_of_mem fun c hc => eq_of_beq (List.all_eq_true.mp hall c hc)
      refine ⟨_, hencoded ▸ hlength, ?_⟩
      rw [← hrest, ← hencoded, List.takeWhile_append_dropWhile]
    · cases h
  · rintro ⟨k, hk, rfl⟩
    exact decode?_padded bytes hk

/-- The bit that is left over in the second text is not zero. -/
example : decode? ['A', 'A', 'E', '='] = some [0, 1] ∧ decode? ['A', 'A', 'F'] = none := by decide

/-- No written form ends in a group of one symbol. -/
theorem length_encode_mod (bytes : List UInt8) : (encode bytes).length % 4 ≠ 1 := by
  induction bytes using encode.induct with
  | case1 => decide
  | case2 a => simp [encode]
  | case3 a b => simp [encode]
  | case4 a b c rest ih =>
      simp only [encode, List.length_cons]
      omega

/-- The padding that may follow completes the last group. -/
theorem paddingAllowed_length_encode (bytes : List UInt8) :
    paddingAllowed (encode bytes).length = (4 - (encode bytes).length % 4) % 4 := by
  have hmod := length_encode_mod bytes
  have hcases : (encode bytes).length % 4 = 0 ∨ (encode bytes).length % 4 = 2 ∨
      (encode bytes).length % 4 = 3 := by omega
  obtain h | h | h := hcases <;> simp only [paddingAllowed, h]

end Base64

namespace HeaderValue

/-- The byte of `=`. -/
def paddingByte : UInt8 := 61

/-- A value without the `=` at its end. -/
def unpadded (v : HeaderValue) : HeaderValue := ⟨v.bytes.rdropWhile (· == paddingByte)⟩

/-- A value completed with `=` to whole groups of four bytes. -/
def padded (v : HeaderValue) : HeaderValue :=
  ⟨v.bytes ++ List.replicate ((4 - v.bytes.length % 4) % 4) paddingByte⟩

theorem dvd_length_padded (v : HeaderValue) : 4 ∣ v.padded.bytes.length := by
  rw [padded, List.length_append, List.length_replicate]
  omega

theorem paddingByte_notMem_ofBinary (bytes : List UInt8) :
    paddingByte ∉ (ofBinary bytes).bytes := by
  intro h
  have hmem : '=' ∈ (ofBinary bytes).bytes.map fun b => Char.ofNat b.toNat :=
    List.mem_map_of_mem h
  rw [chars_ofBinary] at hmem
  exact Base64.padding_notMem_encode bytes hmem

theorem unpadded_append {front : List UInt8} (h : paddingByte ∉ front) (k : Nat) :
    unpadded ⟨front ++ List.replicate k paddingByte⟩ = ⟨front⟩ := by
  have hfront : front.reverse.dropWhile (· == paddingByte) = front.reverse := by
    cases hreverse : front.reverse with
    | nil => rfl
    | cons b rest =>
        have hb : b ∈ front := List.mem_reverse.mp (hreverse ▸ List.mem_cons_self)
        exact List.dropWhile_cons_of_neg (by simpa using ne_of_mem_of_not_mem hb h)
  rw [unpadded, List.rdropWhile, List.reverse_append, List.reverse_replicate,
    List.dropWhile_append_of_pos (by simp), hfront, List.reverse_reverse]

/-- A value is its unpadded form with some padding behind. -/
theorem eq_append_padding (v : HeaderValue) :
    ∃ k, v.bytes = v.unpadded.bytes ++ List.replicate k paddingByte := by
  have hpadding : v.bytes.rtakeWhile (· == paddingByte) =
      List.replicate (v.bytes.rtakeWhile (· == paddingByte)).length paddingByte :=
    List.eq_replicate_of_mem fun b hb =>
      eq_of_beq (List.mem_rtakeWhile_imp (p := (· == paddingByte)) hb)
  refine ⟨(v.bytes.rtakeWhile (· == paddingByte)).length, ?_⟩
  rw [← hpadding]
  exact (List.rdropWhile_append_rtakeWhile ..).symm

/-! ## Reading header values -/

/-- A value is read as a byte string exactly when it is the spelling of it, perhaps padded. -/
theorem binary?_eq_some_iff_append {v : HeaderValue} {bytes : List UInt8} :
    v.binary? = some bytes ↔ ∃ k ≤ Base64.paddingAllowed (ofBinary bytes).bytes.length,
      v.bytes = (ofBinary bytes).bytes ++ List.replicate k paddingByte := by
  have hlength : (Base64.encode bytes).length = (ofBinary bytes).bytes.length :=
    (List.length_map ..).symm
  rw [binary?, Base64.decode?_eq_some_iff, hlength]
  refine exists_congr fun k => and_congr_right fun _ => ?_
  constructor
  · intro h
    have hback : (v.bytes.map fun b => Char.ofNat b.toNat).map (fun c => UInt8.ofNat c.toNat) =
        v.bytes := by
      rw [List.map_map]
      exact List.map_id'' byte_char v.bytes
    rw [← hback, h, List.map_append, List.map_replicate]
    rfl
  · intro h
    rw [h, List.map_append, chars_ofBinary, List.map_replicate]
    rfl

theorem length_padded_ofBinary (bytes : List UInt8) :
    (ofBinary bytes).padded.bytes.length = (ofBinary bytes).bytes.length +
      Base64.paddingAllowed (ofBinary bytes).bytes.length := by
  have hlength : (ofBinary bytes).bytes.length = (Base64.encode bytes).length := List.length_map ..
  rw [padded, List.length_append, List.length_replicate, hlength,
    Base64.paddingAllowed_length_encode]

/-- **A value is read as a byte string exactly when** it is the spelling of it without the `=` at
its end, and no longer than that spelling completed. -/
theorem binary?_eq_some_iff {v : HeaderValue} {bytes : List UInt8} :
    v.binary? = some bytes ↔ v.unpadded = ofBinary bytes ∧
      v.bytes.length ≤ (ofBinary bytes).padded.bytes.length := by
  rw [binary?_eq_some_iff_append, length_padded_ofBinary]
  constructor
  · rintro ⟨k, hk, hv⟩
    refine ⟨?_, ?_⟩
    · rw [show v = ⟨_⟩ from congrArg mk hv,
        unpadded_append (paddingByte_notMem_ofBinary bytes)]
    · rw [hv, List.length_append, List.length_replicate]
      omega
  · rintro ⟨hunpadded, hlength⟩
    obtain ⟨k, hk⟩ := v.eq_append_padding
    rw [hunpadded] at hk
    refine ⟨k, ?_, hk⟩
    rw [hk, List.length_append, List.length_replicate] at hlength
    omega

theorem binary?_padded_ofBinary (bytes : List UInt8) :
    (ofBinary bytes).padded.binary? = some bytes :=
  binary?_eq_some_iff.mpr
    ⟨unpadded_append (paddingByte_notMem_ofBinary bytes) _, Nat.le_refl _⟩

theorem ofBinary_injective : Function.Injective ofBinary := by
  intro bytes bytes' h
  have hread := binary?_ofBinary bytes
  rw [h, binary?_ofBinary] at hread
  exact (Option.some.inj hread).symm

end HeaderValue

/-! ## Echoed values -/

namespace Echo

open Agreed HeaderValue

/-- The trailing values that a call returns for those of a request. -/
def returned (md : Metadata) : Metadata := (ofMetadata md).addTrailers .empty

/-- What is decoded and written again, one value after another. -/
theorem map_ofBinary_filterMap (values : List HeaderValue) :
    (values.filterMap binary?).map ofBinary = (values.filter (·.binary?.isSome)).map unpadded := by
  induction values with
  | nil => rfl
  | cons v rest ih =>
      cases hv : v.binary? with
      | none => rw [List.filterMap_cons_none hv, List.filter_cons_of_neg (by simp [hv]), ih]
      | some bytes =>
          rw [List.filterMap_cons_some hv, List.filter_cons_of_pos (by simp [hv]), List.map_cons,
            List.map_cons, ih, (binary?_eq_some_iff.mp hv).1]

/-- **The readable values are returned, in order and without their padding.** -/
theorem getAll_addTrailers_ofMetadata (md out : Metadata) :
    ((ofMetadata md).addTrailers out).getAll trailingKey = out.getAll trailingKey ++
      ((md.getAll trailingKey).filter (·.binary?.isSome)).map unpadded := by
  rw [addTrailers, Metadata.getAll_appendAll_self, ofMetadata, map_ofBinary_filterMap]

/-- Where trailing values are carried, they are found. -/
theorem TrailingIn.trailing_ofMetadata {e : Echo} {md : Metadata} (h : e.TrailingIn md) :
    (ofMetadata md).trailing = e.trailing := by
  have hdecoded := congrArg (List.filterMap id) h.decoded
  rw [List.filterMap_map, List.filterMap_map] at hdecoded
  exact hdecoded.trans List.filterMap_some

/-- What has been returned is returned unchanged. -/
theorem returned_returned (md : Metadata) : returned (returned md) = returned md := by
  have htrailing : (ofMetadata (returned md)).trailing = (ofMetadata md).trailing :=
    (trailingIn_trailers (ofMetadata md)).trailing_ofMetadata
  rw [returned, addTrailers, htrailing]
  rfl

end Echo

open Agreed in
/-- **Every byte string has one unpadded spelling.**  It is written without `=` and read from what
is written, as well as from that completed with `=` to a multiple of four; any value that is read
as it is the written one up to `=` at its end, which are no more than complete it.  So no two byte
strings share a spelling, and no byte string has two unpadded ones.

The trailing values that a call returns, behind those that `out` has already, are the values of
the request that can be read, in order and each without its padding, which is the spelling of what
was read.  Returning them once more changes nothing. -/
theorem HeaderValue.unpadded_spelling_is_unique :
    (∀ bytes, paddingByte ∉ (ofBinary bytes).bytes ∧ (ofBinary bytes).binary? = some bytes ∧
      4 ∣ (ofBinary bytes).padded.bytes.length ∧
      (ofBinary bytes).padded.binary? = some bytes) ∧
    (∀ (v : HeaderValue) (bytes : List UInt8), v.binary? = some bytes ↔
      v.unpadded = ofBinary bytes ∧
        v.bytes.length ≤ (ofBinary bytes).padded.bytes.length) ∧
    Function.Injective ofBinary ∧
    (∀ (v w : HeaderValue) (bytes : List UInt8), v.unpadded = v → w.unpadded = w →
      v.binary? = some bytes → w.binary? = some bytes → v = w) ∧
    (∀ md out : Metadata, ((Echo.ofMetadata md).addTrailers out).getAll trailingKey =
      out.getAll trailingKey ++
        ((md.getAll trailingKey).filter (·.binary?.isSome)).map unpadded) ∧
    ∀ md : Metadata, Echo.returned (Echo.returned md) = Echo.returned md := by
  refine ⟨fun bytes => ?written, fun v bytes => binary?_eq_some_iff, ofBinary_injective,
    fun v w bytes hv hw hreadv hreadw => ?unique, Echo.getAll_addTrailers_ofMetadata,
    Echo.returned_returned⟩
  case written =>
    exact ⟨paddingByte_notMem_ofBinary bytes, binary?_ofBinary bytes,
      dvd_length_padded _, binary?_padded_ofBinary bytes⟩
  case unique =>
    have hspellv : v.unpadded = ofBinary bytes := (binary?_eq_some_iff.mp hreadv).1
    have hspellw : w.unpadded = ofBinary bytes := (binary?_eq_some_iff.mp hreadw).1
    rw [← hv, hspellv, ← hspellw, hw]

end RpcConformance
