import RpcConformance.IpAddress
import RpcConformance.Proofs.AuthorityText

/-!
# Texts of addresses

The text of an address is put together from numerals and marks.  `Piece` counts the colons of such
a text and bounds its length; both add up where pieces are joined.  An address of four numbers has
no colon and is read back; one of eight groups has at least two colons and at most eight.

## Main results

* `IpAddress.piece_fourText`, `IpAddress.piece_eightText` — the colons of an address.
* `IpAddress.ofBare?_fourText` — four numbers are read back.
-/

namespace RpcConformance

namespace IpAddress

/-! ## Pieces -/

/-- A text of characters of addresses with so many colons, and with no more than so many
characters. -/
structure Piece (cs : List Char) (colons room : Nat) : Prop where
  chars : IsAddressText cs
  count : cs.count ':' = colons
  length : cs.length ≤ room

theorem Piece.append {cs ds : List Char} {a b m n : Nat} (hcs : Piece cs a m)
    (hds : Piece ds b n) : Piece (cs ++ ds) (a + b) (m + n) where
  chars := hcs.chars.append hds.chars
  count := by rw [List.count_append, hcs.count, hds.count]
  length := by
    rw [List.length_append]
    exact Nat.add_le_add hcs.length hds.length

theorem Piece.mono {cs : List Char} {colons m n : Nat} (h : Piece cs colons m) (hmn : m ≤ n) :
    Piece cs colons n :=
  ⟨h.chars, h.count, Nat.le_trans h.length hmn⟩

/-! ## Four numbers -/

theorem piece_octet {n : Nat} (h : n < 256) : Piece (Decimal.digits n) 0 3 where
  chars := isAddressText_digits n
  count := List.count_eq_zero.mpr (colon_notMem_digits n)
  length := Decimal.length_digits_le (by decide) (by omega)

theorem toList_fourText (value : BitVec 32) :
    (fourText value).toList =
      Decimal.digits (value.toNat / 16777216) ++
        '.' :: (Decimal.digits (value.toNat / 65536 % 256) ++
          '.' :: (Decimal.digits (value.toNat / 256 % 256) ++
            '.' :: Decimal.digits (value.toNat % 256))) := by
  have htext (n : Nat) : (Decimal.text n).toList = Decimal.digits n := String.toList_ofList
  have hpoint : ".".toList = ['.'] := rfl
  simp only [fourText, String.toList_intercalate, List.map_cons, List.map_nil, htext, hpoint,
    List.intercalate_cons_cons, List.intercalate_singleton, List.append_assoc, List.cons_append,
    List.nil_append]

/-- **An address of four numbers has no colon.** -/
theorem piece_fourText (value : BitVec 32) : Piece (fourText value).toList 0 15 := by
  have hvalue := value.isLt
  have hpoint : Piece ['.'] 0 1 := ⟨by decide, rfl, Nat.le_refl 1⟩
  have hparts := (piece_octet (n := value.toNat / 16777216) (by omega)).append
    (hpoint.append ((piece_octet (n := value.toNat / 65536 % 256) (by omega)).append
      (hpoint.append ((piece_octet (n := value.toNat / 256 % 256) (by omega)).append
        (hpoint.append (piece_octet (n := value.toNat % 256) (by omega)))))))
  rw [toList_fourText]
  exact hparts

/-- A number of four is read back where no digit stands behind it. -/
theorem readOctet_digits {n : Nat} (h : n < 256) {rest : List Char}
    (hrest : ∀ c ∈ rest.head?, Decimal.isDigit c = false) :
    readOctet (Decimal.digits n ++ rest) = some (n, rest) := by
  have hdigits : ∀ c ∈ Decimal.digits n, Decimal.isDigit c = true :=
    fun c hc => Decimal.isDigit_of_mem_digits hc
  have htake : (Decimal.digits n ++ rest).takeWhile Decimal.isDigit = Decimal.digits n := by
    rw [List.takeWhile_append_of_pos hdigits]
    cases rest with
    | nil => exact List.append_nil _
    | cons c rest =>
        rw [List.takeWhile_cons_of_neg (by rw [hrest c rfl]; exact Bool.false_ne_true),
          List.append_nil]
  have hdrop : (Decimal.digits n ++ rest).dropWhile Decimal.isDigit = rest := by
    rw [List.dropWhile_append_of_pos hdigits]
    cases rest with
    | nil => rfl
    | cons c rest =>
        exact List.dropWhile_cons_of_neg (by rw [hrest c rfl]; exact Bool.false_ne_true)
  have hempty : (Decimal.digits n).isEmpty = false :=
    List.isEmpty_eq_false_iff.mpr (Decimal.digits_ne_nil n)
  have hlength : ¬ 3 < (Decimal.digits n).length := Nat.not_lt.mpr (piece_octet h).length
  have hzero : ((Decimal.digits n).head? == some '0' && decide (1 < (Decimal.digits n).length)) =
      false := by
    rcases Nat.eq_zero_or_pos n with rfl | hpos
    · have hdigit : Decimal.digits 0 = ['0'] := Decimal.digits_of_lt (by decide)
      rw [hdigit]
      rfl
    · rw [beq_eq_false_iff_ne.mpr (Decimal.head?_digits hpos)]
      rfl
  have hsmall : ¬ 255 < n := by omega
  simp only [readOctet, htake, hdrop, Decimal.value_digits, hempty, hzero, decide_eq_false hlength,
    decide_eq_false hsmall, Bool.or_self, Bool.false_eq_true, if_false]

theorem readOctets_digits (acc count : Nat) {n : Nat} (h : n < 256) {rest : List Char}
    (hrest : ∀ c ∈ rest.head?, Decimal.isDigit c = false) :
    readOctets acc (count + 1) ('.' :: (Decimal.digits n ++ rest)) =
      readOctets (acc * 256 + n) count rest := by
  rw [readOctets, readOctet_digits h hrest]

theorem readFour_digits {a b c d : Nat} (ha : a < 256) (hb : b < 256) (hc : c < 256)
    (hd : d < 256) :
    readFour (Decimal.digits a ++ '.' :: (Decimal.digits b ++ '.' :: (Decimal.digits c ++
        '.' :: Decimal.digits d))) = some (((a * 256 + b) * 256 + c) * 256 + d, []) := by
  have hpoint (rest : List Char) : ∀ c ∈ ('.' :: rest).head?, Decimal.isDigit c = false := by
    rintro c ⟨rfl⟩
    rfl
  have hlast : readOctets ((a * 256 + b) * 256 + c) 1 ('.' :: (Decimal.digits d ++ [])) =
      some (((a * 256 + b) * 256 + c) * 256 + d, []) := readOctets_digits _ 0 hd nofun
  rw [List.append_nil] at hlast
  rw [readFour, readOctet_digits ha (hpoint _)]
  show readOctets a 3 _ = _
  rw [readOctets_digits a 2 hb (hpoint _), readOctets_digits _ 1 hc (hpoint _), hlast]

/-- **Four numbers are read back.** -/
theorem ofBare?_fourText (value : BitVec 32) : ofBare? (fourText value) = some (.v4 value) := by
  have hvalue := value.isLt
  have hnumbers : ((value.toNat / 16777216 * 256 + value.toNat / 65536 % 256) * 256 +
      value.toNat / 256 % 256) * 256 + value.toNat % 256 = value.toNat := by omega
  have hfour : readFour (fourText value).toList = some (value.toNat, []) := by
    rw [toList_fourText, readFour_digits (by omega) (by omega) (by omega) (by omega), hnumbers]
  rw [ofBare?, hfour]
  simp only [BitVec.ofNat_toNat, BitVec.setWidth_eq]

/-! ## Eight groups -/

/-- A group has up to four digits, and no colon. -/
theorem piece_group {n : Nat} (h : n < 65536) : Piece (Hexadecimal.digits n) 0 4 := by
  have hdigit : ∀ d < 16, Nat.digitChar d ∈ addressChars ∧ Nat.digitChar d ≠ ':' := by decide
  have hall : ∀ c ∈ Hexadecimal.digits n, c ∈ addressChars ∧ c ≠ ':' := by
    rw [Hexadecimal.digits]
    clear h
    induction n using Nat.strongRecOn with
    | ind n ih =>
        intro c hc
        rw [Nat.toDigits_eq_if (by decide)] at hc
        split at hc
        · rename_i hsmall
          rw [List.mem_singleton.mp hc]
          exact hdigit n hsmall
        · rename_i hlarge
          rcases List.mem_append.mp hc with hfront | hlast
          · exact ih (n / 16) (by omega) c hfront
          · rw [List.mem_singleton.mp hlast]
            exact hdigit (n % 16) (Nat.mod_lt n (by decide))
  exact ⟨fun c hc => (hall c hc).1, List.count_eq_zero.mpr fun hmem => (hall ':' hmem).2 rfl,
    (Nat.length_toDigits_le_iff (by decide) (by decide)).mpr h⟩

theorem toList_groupsText (l : List Nat) :
    (groupsText l).toList = [':'].intercalate (l.map Hexadecimal.digits) := by
  have hcolon : ":".toList = [':'] := rfl
  have htext : String.toList ∘ hexText = Hexadecimal.digits :=
    funext fun n => String.toList_ofList
  rw [groupsText, String.toList_intercalate, List.map_map, htext, hcolon]

/-- Groups have a colon between any two. -/
theorem piece_groupsText {l : List Nat} (h : ∀ g ∈ l, g < 65536) :
    Piece (groupsText l).toList (l.length - 1) (5 * l.length) := by
  rw [toList_groupsText]
  induction l with
  | nil => exact ⟨nofun, rfl, Nat.le_refl 0⟩
  | cons g l ih =>
      have hg := piece_group (h g List.mem_cons_self)
      have htail := ih fun x hx => h x (List.mem_cons_of_mem g hx)
      have hcolon : Piece [':'] 1 1 := ⟨by decide, rfl, Nat.le_refl 1⟩
      cases l with
      | nil =>
          rw [List.map_singleton, List.intercalate_singleton]
          exact hg.mono (Nat.le_succ 4)
      | cons next l =>
          have hall := (hg.append hcolon).append htail
          rw [List.map_cons, List.map_cons, List.intercalate_cons_cons]
          have hcount : (g :: next :: l).length - 1 = 0 + 1 + ((next :: l).length - 1) := by
            rw [List.length_cons, List.length_cons]
            omega
          rw [hcount]
          refine hall.mono ?_
          simp only [List.length_cons]
          omega

theorem group_lt (value : BitVec 128) : ∀ g ∈ groups value, g < 65536 := by
  intro g hg
  obtain ⟨i, -, rfl⟩ := List.mem_map.mp hg
  exact Nat.mod_lt _ (by decide)

theorem length_groups (value : BitVec 128) : (groups value).length = 8 := by
  rw [groups, List.length_map, List.length_range]

/-- A run of zeros that is left out leaves two colons, and so does one at an end. -/
theorem piece_shortened {l : List Nat} (h : ∀ g ∈ l, g < 65536) (hlength : l.length = 8)
    {start : Nat} (hcount : 1 < zerosFrom l start) :
    ∃ colons, 2 ≤ colons ∧ colons ≤ 8 ∧
      Piece (groupsText (l.take start) ++ "::" ++
        groupsText (l.drop (start + zerosFrom l start))).toList colons 62 := by
  have hfront := piece_groupsText fun g hg => h g (List.mem_of_mem_take hg (i := start))
  have hback := piece_groupsText fun g hg =>
    h g (List.mem_of_mem_drop hg (i := start + zerosFrom l start))
  have hmiddle : Piece "::".toList 2 2 := ⟨by decide, by decide, by decide⟩
  have hrun : zerosFrom l start ≤ 8 - start := by
    have hle := (List.takeWhile_prefix (· == 0) (l := l.drop start)).length_le
    rwa [List.length_drop, hlength] at hle
  have htake : (l.take start).length ≤ start := List.length_take_le start l
  have hdrop : (l.drop (start + zerosFrom l start)).length = 8 - (start + zerosFrom l start) := by
    rw [List.length_drop, hlength]
  have hall := (hfront.append hmiddle).append hback
  rw [← String.toList_append, ← String.toList_append] at hall
  exact ⟨_, by omega, by omega, hall.mono (by omega)⟩

/-- **An address of eight groups has at least two colons and at most eight.** -/
theorem piece_eightText (value : BitVec 128) :
    ∃ colons, 2 ≤ colons ∧ colons ≤ 8 ∧ Piece (eightText value).toList colons 62 := by
  unfold eightText
  by_cases hmapped : value.toNat / 4294967296 = 65535
  · have hmapping : Piece "::ffff:".toList 3 7 := ⟨by decide, by decide, by decide⟩
    refine ⟨3, by decide, by decide, ?_⟩
    simp only [if_pos hmapped, String.toList_append]
    exact (hmapping.append (piece_fourText _)).mono (by decide)
  · simp only [if_neg hmapped]
    by_cases hrun : 1 < zerosFrom (groups value) (longestZeros (groups value))
    · rw [if_pos hrun]
      exact piece_shortened (group_lt value) (length_groups value) hrun
    · rw [if_neg hrun]
      have hall := piece_groupsText (group_lt value)
      rw [length_groups] at hall
      exact ⟨7, by decide, by decide, hall.mono (by decide)⟩

end IpAddress

end RpcConformance
