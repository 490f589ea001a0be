import RpcConformance.Json.Value
import RpcConformance.Proofs.JsonStrings
import RpcConformance.Proofs.Numerals

/-!
# Tokens of JSON that are read back

A number is read as far as its digits go, so it is read back where what stands behind it does not
continue it.  What is written holds no control character, since in strings these are escaped.

## Main results

* `readNumber_digits` — a whole number is read back.
* `printable_compact` — what is written without white space holds no control character.
-/

namespace RpcConformance

namespace Json

/-! ## Texts without control characters -/

/-- A text without control characters, so one without line breaks. -/
def Printable (cs : List Char) : Prop := ∀ c ∈ cs, 0x20 ≤ c.toNat

instance (cs : List Char) : Decidable (Printable cs) :=
  List.decidableBAll (fun c : Char => 0x20 ≤ c.toNat) cs

theorem Printable.cons {c : Char} {cs : List Char} (hc : 0x20 ≤ c.toNat) (h : Printable cs) :
    Printable (c :: cs) :=
  List.forall_mem_cons.mpr ⟨hc, h⟩

theorem Printable.append {cs ds : List Char} (hcs : Printable cs) (hds : Printable ds) :
    Printable (cs ++ ds) :=
  List.forall_mem_append.mpr ⟨hcs, hds⟩

/-! ## Numbers -/

/-- What may stand behind a whole number: nothing that continues it. -/
def EndsNumber (rest : List Char) : Prop :=
  ∀ c ∈ rest.head?, Decimal.isDigit c = false ∧ c ≠ '.' ∧ c ≠ 'e' ∧ c ≠ 'E'

theorem EndsNumber.startsWithDigit {rest : List Char} (h : EndsNumber rest) :
    startsWithDigit rest = false := by
  cases rest with
  | nil => rfl
  | cons c rest => exact (h c rfl).1

theorem readNumberEnd_of_ends (negative : Bool) (n : Nat) {rest : List Char}
    (h : EndsNumber rest) : readNumberEnd negative n rest = .ok (wholeNumber negative n, rest) := by
  unfold readNumberEnd
  split
  · exact absurd rfl (h _ rfl).2.1
  · exact absurd rfl (h _ rfl).2.2.1
  · exact absurd rfl (h _ rfl).2.2.2
  · rfl

theorem le_valueFrom (acc : Nat) (ds : List Char) : acc ≤ Decimal.valueFrom acc ds := by
  induction ds generalizing acc with
  | nil => exact Nat.le_refl acc
  | cons d ds ih =>
      have hstep := ih (acc * 10 + Decimal.digitValue d)
      show acc ≤ Decimal.valueFrom (acc * 10 + Decimal.digitValue d) ds
      omega

/-- Digits whose value is below the limit are all taken. -/
theorem takeDigits_append {limit acc : Nat} (count : Nat) {ds rest : List Char}
    (hdigits : ∀ d ∈ ds, Decimal.isDigit d = true) (hlimit : Decimal.valueFrom acc ds < limit)
    (hrest : startsWithDigit rest = false) :
    takeDigits limit acc count (ds ++ rest) =
      ⟨Decimal.valueFrom acc ds, count + ds.length, rest⟩ := by
  induction ds generalizing acc count with
  | nil =>
      cases rest with
      | nil => rfl
      | cons c rest =>
          have hc : ¬ (Decimal.isDigit c = true ∧ acc * 10 + Decimal.digitValue c < limit) :=
            fun hboth => Bool.false_ne_true (hrest.symm.trans hboth.1)
          rw [List.nil_append, takeDigits, if_neg hc]
          rfl
  | cons d ds ih =>
      have hd : Decimal.isDigit d = true := hdigits d List.mem_cons_self
      have hnext : acc * 10 + Decimal.digitValue d < limit :=
        Nat.lt_of_le_of_lt (le_valueFrom _ ds) hlimit
      have htail := ih (count + 1) (fun x hx => hdigits x (List.mem_cons_of_mem d hx)) hlimit
      rw [List.cons_append, takeDigits, if_pos ⟨hd, hnext⟩, htail, List.length_cons]
      congr 1
      omega

/-- **A whole number is read back** where what stands behind it does not continue it. -/
theorem readNumber_digits (negative : Bool) {n : Nat} (h : n < wordLimit) {rest : List Char}
    (hrest : EndsNumber rest) :
    readNumber negative (Decimal.digits n ++ rest) = .ok (wholeNumber negative n, rest) := by
  obtain ⟨d, ds, hds⟩ := List.exists_cons_of_ne_nil (Decimal.digits_ne_nil n)
  have htake : takeDigits wordLimit 0 0 (Decimal.digits n ++ rest) =
      ⟨n, (Decimal.digits n).length, rest⟩ := by
    have hvalue := Decimal.value_digits n
    have hall := takeDigits_append 0 (fun _ => Decimal.isDigit_of_mem_digits (n := n))
      (lt_of_eq_of_lt hvalue h) hrest.startsWithDigit
    rw [hall, Nat.zero_add]
    congr 1
  have hcount : (Decimal.digits n).length ≠ 0 := by
    rw [hds]
    exact Nat.succ_ne_zero _
  rcases Nat.eq_zero_or_pos n with rfl | hpos
  · have hzero : Decimal.digits 0 = ['0'] := Decimal.digits_of_lt (by decide)
    rw [hzero, List.singleton_append, readNumber, if_neg (by rw [hrest.startsWithDigit]; decide),
      readNumberEnd_of_ends negative 0 hrest]
  · have hhead := Decimal.head?_digits hpos
    unfold readNumber
    split
    · rename_i hnil
      rw [hds] at hnil
      cases hnil
    · rename_i hfirst
      rw [hds] at hfirst hhead
      injection hfirst with hfirst
      exact absurd (congrArg some hfirst) hhead
    · rw [htake]
      simp only [if_neg hcount, hrest.startsWithDigit]
      exact readNumberEnd_of_ends negative n hrest

/-! ## Characters that are written -/

theorem printable_code {n : Nat} (h : n < 256) :
    Printable ['\\', 'u', '0', '0', hexDigit (n / 16), hexDigit (n % 16)] := by
  have hdigit {k : Nat} (hk : k < 16) : 0x20 ≤ (hexDigit k).toNat := by
    rw [toNat_hexDigit hk, Hexadecimal.lowerDigit]
    split <;> omega
  have hstart : Printable ['\\', 'u', '0', '0'] := by decide
  exact hstart.append (.cons (hdigit (by omega)) (.cons (hdigit (by omega)) nofun))

theorem printable_escapeChar (c : Char) : Printable (escapeChar c) := by
  unfold escapeChar
  split_ifs with hquote hslash hplain hb ht hn hf hr
  · decide
  · decide
  · exact List.forall_mem_singleton.mpr hplain
  · decide
  · decide
  · decide
  · decide
  · decide
  · exact printable_code (by omega)

theorem printable_string (cs : List Char) : Printable (string cs) := by
  have hbody : Printable (cs.flatMap escapeChar) := by
    intro d hd
    obtain ⟨c, -, hdc⟩ := List.mem_flatMap.mp hd
    exact printable_escapeChar c d hdc
  exact (hbody.cons (by decide)).append (by decide)

theorem printable_digits (n : Nat) : Printable (Decimal.digits n) := by
  intro c hc
  have hdigit := Decimal.isDigit_of_mem_digits hc
  simp only [Decimal.isDigit, Bool.and_eq_true, decide_eq_true_eq] at hdigit
  omega

mutual

/-- **What is written without white space holds no control character.** -/
theorem printable_compact : (v : Json) → Printable v.compact
  | .null => by decide
  | .bool true => by decide
  | .bool false => by decide
  | .int (.ofNat n) => printable_digits n
  | .int (.negSucc n) => (printable_digits (n + 1)).cons (by decide)
  | .str s => printable_string s.toList
  | .arr items => ((printable_compactItems items).cons (by decide)).append (by decide)
  | .obj members => ((printable_compactMembers members).cons (by decide)).append (by decide)

theorem printable_compactItems : (items : List Json) → Printable (compactItems items)
  | [] => nofun
  | [v] => printable_compact v
  | v :: w :: rest =>
    (printable_compact v).append ((printable_compactItems (w :: rest)).cons (by decide))

theorem printable_compactMembers :
    (members : List (String × Json)) → Printable (compactMembers members)
  | [] => nofun
  | [(k, v)] => (printable_string k.toList).append ((printable_compact v).cons (by decide))
  | (k, v) :: m :: rest =>
    ((printable_string k.toList).append ((printable_compact v).cons (by decide))).append
      ((printable_compactMembers (m :: rest)).cons (by decide))

end

end Json

end RpcConformance
