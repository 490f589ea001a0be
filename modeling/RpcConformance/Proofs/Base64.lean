import RpcConformance.Metadata
import RpcConformance.Proofs.Delimiters

/-!
# Binary values survive their spelling

Writing base64 goes through groups of six bits, and so does reading it: the groups of a byte
string are all below 64, each is found again from its symbol, and regrouping them gives the
bytes back.

## Main results

* `Base64.decode?_padded` — reading undoes writing, whatever padding follows.
* `HeaderValue.binary?_ofBinary` — a binary header value arrives as it was sent.
-/

namespace RpcConformance

namespace Base64

/-- The groups of six bits of a byte string, the last one filled up with zeros. -/
def sextets : List UInt8 → List Nat
  | [] => []
  | [a] => [a.toNat / 4, a.toNat % 4 * 16]
  | [a, b] => [a.toNat / 4, a.toNat % 4 * 16 + b.toNat / 16, b.toNat % 16 * 4]
  | a :: b :: c :: rest =>
    a.toNat / 4 :: (a.toNat % 4 * 16 + b.toNat / 16) :: (b.toNat % 16 * 4 + c.toNat / 64)
      :: (c.toNat % 64) :: sextets rest

theorem encode_eq_map (bytes : List UInt8) : encode bytes = (sextets bytes).map symbol := by
  induction bytes using encode.induct with
  | case1 => rfl
  | case2 a => rfl
  | case3 a b => rfl
  | case4 a b c rest ih => rw [encode, sextets, ih, List.map_cons, List.map_cons, List.map_cons,
      List.map_cons]

theorem sextets_lt (bytes : List UInt8) : ∀ n ∈ sextets bytes, n < 64 := by
  induction bytes using encode.induct with
  | case1 => intro n hn; cases hn
  | case2 a =>
      have ha : a.toNat < 256 := a.toNat_lt
      simp only [sextets, List.forall_mem_cons, List.not_mem_nil, false_imp_iff, implies_true,
        and_true]
      omega
  | case3 a b =>
      have ha : a.toNat < 256 := a.toNat_lt
      have hb : b.toNat < 256 := b.toNat_lt
      simp only [sextets, List.forall_mem_cons, List.not_mem_nil, false_imp_iff, implies_true,
        and_true]
      omega
  | case4 a b c rest ih =>
      have ha : a.toNat < 256 := a.toNat_lt
      have hb : b.toNat < 256 := b.toNat_lt
      have hc : c.toNat < 256 := c.toNat_lt
      simp only [sextets, List.forall_mem_cons]
      exact ⟨by omega, by omega, by omega, by omega, ih⟩

/-! ## Symbols -/

theorem symbolValue?_symbol {n : Nat} (h : n < 64) : symbolValue? (symbol n) = some n := by
  have hall : ∀ k : Fin 64, symbolValue? (symbol k) = some k.val := by decide
  exact hall ⟨n, h⟩

theorem symbol_ne_padding {n : Nat} (h : n < 64) : symbol n ≠ '=' := by
  intro hsymbol
  have hnone : symbolValue? '=' = none := by decide
  have hvalue := symbolValue?_symbol h
  rw [hsymbol, hnone] at hvalue
  cases hvalue

/-- A symbol is one byte of a header. -/
theorem symbol_byte {n : Nat} (h : n < 64) :
    Char.ofNat (UInt8.ofNat (symbol n).toNat).toNat = symbol n := by
  have hall : ∀ k : Fin 64, Char.ofNat (UInt8.ofNat (symbol k).toNat).toNat = symbol k := by
    decide
  exact hall ⟨n, h⟩

theorem mapM_symbolValue? {groups : List Nat} (h : ∀ n ∈ groups, n < 64) :
    (groups.map symbol).mapM symbolValue? = some groups := by
  induction groups with
  | nil => rfl
  | cons n rest ih =>
      have hn : symbolValue? (symbol n) = some n :=
        symbolValue?_symbol (h n List.mem_cons_self)
      have hrest := ih fun k hk => h k (List.mem_cons_of_mem n hk)
      rw [List.map_cons, List.mapM_cons, hn, hrest]
      rfl

/-! ## Groups -/

theorem byte_of_quotient {a : UInt8} {n : Nat} (h : n = a.toNat) : UInt8.ofNat n = a := by
  rw [h, UInt8.ofNat_toNat]

theorem regroup?_sextets (bytes : List UInt8) : regroup? (sextets bytes) = some bytes := by
  induction bytes using encode.induct with
  | case1 => rfl
  | case2 a =>
      have ha : UInt8.ofNat (a.toNat / 4 * 4 + a.toNat % 4 * 16 / 16) = a :=
        byte_of_quotient (by omega)
      rw [sextets, regroup?, if_pos (by omega), ha]
  | case3 a b =>
      have hb' : b.toNat < 256 := b.toNat_lt
      have ha : UInt8.ofNat (a.toNat / 4 * 4 + (a.toNat % 4 * 16 + b.toNat / 16) / 16) = a :=
        byte_of_quotient (by omega)
      have hb : UInt8.ofNat ((a.toNat % 4 * 16 + b.toNat / 16) % 16 * 16 +
          b.toNat % 16 * 4 / 4) = b := byte_of_quotient (by omega)
      rw [sextets, regroup?, if_pos (by omega), ha, hb]
  | case4 a b c rest ih =>
      have hb' : b.toNat < 256 := b.toNat_lt
      have hc' : c.toNat < 256 := c.toNat_lt
      have ha : UInt8.ofNat (a.toNat / 4 * 4 + (a.toNat % 4 * 16 + b.toNat / 16) / 16) = a :=
        byte_of_quotient (by omega)
      have hb : UInt8.ofNat ((a.toNat % 4 * 16 + b.toNat / 16) % 16 * 16 +
          (b.toNat % 16 * 4 + c.toNat / 64) / 4) = b := byte_of_quotient (by omega)
      have hc : UInt8.ofNat ((b.toNat % 16 * 4 + c.toNat / 64) % 4 * 64 + c.toNat % 64) = c :=
        byte_of_quotient (by omega)
      rw [sextets, regroup?, ih, Option.map_some, ha, hb, hc]

theorem padding_notMem_encode (bytes : List UInt8) : '=' ∉ encode bytes := by
  rw [encode_eq_map]
  intro h
  obtain ⟨n, hn, hsymbol⟩ := List.mem_map.mp h
  exact symbol_ne_padding (sextets_lt bytes n hn) hsymbol

/-- **Reading undoes writing**, also where padding follows. -/
theorem decode?_padded (bytes : List UInt8) {k : Nat}
    (hk : k ≤ paddingAllowed (encode bytes).length) :
    decode? (encode bytes ++ List.replicate k '=') = some bytes := by
  have hplain := all_ne_of_notMem (padding_notMem_encode bytes)
  have hsymbols : (encode bytes ++ List.replicate k '=').takeWhile (· ≠ '=') = encode bytes := by
    rw [List.takeWhile_append_of_pos hplain, List.takeWhile_replicate]
    exact List.append_nil _
  have hpadding : (encode bytes ++ List.replicate k '=').dropWhile (· ≠ '=') =
      List.replicate k '=' := by
    rw [List.dropWhile_append_of_pos hplain, List.dropWhile_replicate]
    rfl
  unfold decode?
  rw [hsymbols, hpadding, if_pos, encode_eq_map, mapM_symbolValue? (sextets_lt bytes),
    Option.bind_some]
  · exact regroup?_sextets bytes
  · rw [List.length_replicate]
    exact ⟨List.all_replicate.trans (by simp), hk⟩

theorem decode?_encode (bytes : List UInt8) : decode? (encode bytes) = some bytes := by
  simpa using decode?_padded bytes (Nat.zero_le _)

end Base64

namespace HeaderValue

/-- The characters of a spelling are found again from its bytes. -/
theorem chars_ofBinary (bytes : List UInt8) :
    (ofBinary bytes).bytes.map (fun b => Char.ofNat b.toNat) = Base64.encode bytes := by
  rw [ofBinary, List.map_map, Base64.encode_eq_map, List.map_map]
  refine List.map_congr_left fun n hn => ?_
  exact Base64.symbol_byte (Base64.sextets_lt bytes n hn)

/-- **A binary header value arrives as it was sent.** -/
theorem binary?_ofBinary (bytes : List UInt8) : (ofBinary bytes).binary? = some bytes := by
  rw [binary?, chars_ofBinary]
  exact Base64.decode?_encode bytes

end HeaderValue

end RpcConformance
