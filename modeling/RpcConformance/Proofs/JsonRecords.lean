import RpcConformance.Json.Reader
import RpcConformance.Proofs.JsonTokens

/-!
# Values, lists and members that are read

`Spells` says that a reader takes a text for a value, whatever white space stands before it and
whatever stands behind it.  A list is spelled element by element, with white space and commas
between them, and a reader of elements makes a reader of the list.  The form without white space is
one of these spellings.

## Main results

* `spells_quotes`, `spells_int` — strings and whole numbers.
* `ListText.spells` — a list is read from its elements.
* `readMembers_member`, `readField_spelled` — a member of an object, and a field behind its colon.
-/

namespace RpcConformance.Json

variable {α σ : Type}

/-! ## White space -/

/-- White space between tokens. -/
def Gap (w : List Char) : Prop := ∀ c ∈ w, isSpace c = true

theorem Gap.nil : Gap [] := nofun

/-- What stands before a piece: white space, and behind another piece a comma. -/
inductive Separator : Bool → List Char → Prop
  | start {w : List Char} : Gap w → Separator true w
  | comma {w x : List Char} : Gap w → Gap x → Separator false (w ++ ',' :: x)

theorem skipSpace_gap {w : List Char} (h : Gap w) (rest : List Char) :
    skipSpace (w ++ rest) = skipSpace rest :=
  List.dropWhile_append_of_pos h

theorem skipSpace_cons {c : Char} (h : isSpace c = false) (rest : List Char) :
    skipSpace (c :: rest) = c :: rest :=
  List.dropWhile_cons_of_neg (by rw [h]; exact Bool.false_ne_true)

theorem skipSpace_gap_cons {w : List Char} (hw : Gap w) {c : Char} (hc : isSpace c = false)
    (rest : List Char) : skipSpace (w ++ c :: rest) = c :: rest := by
  rw [skipSpace_gap hw, skipSpace_cons hc]

/-- White space, a comma and a bracket end a number. -/
theorem endsNumber_gap_cons {w : List Char} (hw : Gap w) {c : Char}
    (hc : c = ',' ∨ c = ']' ∨ c = '\x7d') (rest : List Char) : EndsNumber (w ++ c :: rest) := by
  intro d hd
  cases w with
  | nil =>
      obtain rfl : c = d := Option.some.inj hd
      rcases hc with rfl | rfl | rfl <;> decide
  | cons x w =>
      obtain rfl : x = d := Option.some.inj hd
      have hspace := hw x List.mem_cons_self
      simp only [isSpace, Bool.or_eq_true, beq_iff_eq] at hspace
      rcases hspace with ((rfl | rfl) | rfl) | rfl <;> decide

theorem Separator.endsNumber {w : List Char} (h : Separator false w) (rest : List Char) :
    EndsNumber (w ++ rest) := by
  cases h with
  | comma hw hx =>
      rw [List.append_assoc]
      exact endsNumber_gap_cons hw (.inl rfl) _

/-! ## Values -/

/-- A reader takes the text for the value, with any white space before it and anything behind it
that does not continue a number. -/
structure Spells (reader : Reader α) (text : List Char) (a : α) : Prop where
  starts : ∃ c rest, text = c :: rest ∧ isSpace c = false ∧ c ≠ ']'
  reads {cs rest : List Char} :
    skipSpace cs = text ++ rest → EndsNumber rest → reader cs = .ok (a, rest)

theorem Spells.length_pos {reader : Reader α} {text : List Char} {a : α}
    (h : Spells reader text a) : 0 < text.length := by
  obtain ⟨c, rest, rfl, -⟩ := h.starts
  exact Nat.succ_pos _

/-- Every spelling of a text is read as that text. -/
theorem spells_quotes {text : List Char} {s : String} (h : Quotes text s) :
    Spells readString text s := by
  obtain ⟨body, rfl, hbody⟩ := h
  refine ⟨⟨'"', _, rfl, by decide, by decide⟩, ?_⟩
  intro cs rest hcs _
  rw [List.cons_append, List.append_assoc] at hcs
  rw [readString, hcs]
  exact readStringRest_spelled hbody rest

/-- Signed numbers of 32 bits. -/
def IsInt32 (i : Int) : Prop := -(int32Limit : Int) ≤ i ∧ i < int32Limit

instance (i : Int) : Decidable (IsInt32 i) :=
  inferInstanceAs (Decidable (-(int32Limit : Int) ≤ i ∧ i < int32Limit))

theorem int32Of_whole {i : Int} (h : IsInt32 i) (rest : List Char) :
    int32Of (.whole i) rest = .ok (i, rest) :=
  if_pos h

theorem isSpace_digit {c : Char} (h : Decimal.isDigit c = true) : isSpace c = false := by
  simp only [Decimal.isDigit, Bool.and_eq_true, decide_eq_true_eq] at h
  have hne (d : Char) (hd : d.toNat < 48) : (c == d) = false := by
    refine beq_eq_false_iff_ne.mpr ?_
    rintro rfl
    omega
  rw [isSpace, hne ' ' (by decide), hne '\n' (by decide), hne '\t' (by decide),
    hne '\r' (by decide)]
  rfl

theorem spells_natural {n : Nat} (h : IsInt32 n) : Spells readInt32 (Decimal.digits n) n := by
  obtain ⟨d, ds, hds⟩ := List.exists_cons_of_ne_nil (Decimal.digits_ne_nil n)
  have hd : Decimal.isDigit d = true :=
    Decimal.isDigit_of_mem_digits (by rw [hds]; exact List.mem_cons_self)
  have hn : n < wordLimit := by
    have hlimit : int32Limit = 2147483648 := by decide
    have hword : wordLimit = 18446744073709551616 := by decide
    have hupper := h.2
    omega
  refine ⟨⟨d, ds, hds, isSpace_digit hd, ?_⟩, ?_⟩
  · rintro rfl
    exact absurd hd (by decide)
  · intro cs rest hcs hrest
    have hread := readNumber_digits false hn hrest
    have hwhole : wholeNumber false n = .whole n := rfl
    have hdigit : startsWithDigit (Decimal.digits n ++ rest) = true := by
      rw [hds]
      exact hd
    unfold readInt32
    split
    · rename_i hminus
      rw [hcs, hds, List.cons_append] at hminus
      injection hminus with hminus
      rw [hminus] at hd
      exact absurd hd (by decide)
    · simp only [hcs, if_pos hdigit, hread, hwhole, bind, Except.bind]
      rw [int32Of_whole h rest]

theorem spells_negative {n : Nat} (h : IsInt32 (.negSucc n)) :
    Spells readInt32 ('-' :: Decimal.digits (n + 1)) (.negSucc n) := by
  have hlower := h.1
  have hlimit : (int32Limit : Int) = 2147483648 := by decide
  have hword : wordLimit = 18446744073709551616 := by decide
  have hsign : powerOfTwo 63 = 9223372036854775808 := by decide
  refine ⟨⟨'-', _, rfl, by decide, by decide⟩, ?_⟩
  intro cs rest hcs hrest
  have hread := readNumber_digits true (n := n + 1) (by omega) hrest
  have hwhole : wholeNumber true (n + 1) = .whole (.negSucc n) := by
    rw [wholeNumber, if_pos rfl, if_neg (by omega)]
    rfl
  rw [readInt32, hcs, List.cons_append]
  simp only [hread, hwhole, bind, Except.bind]
  rw [int32Of_whole h rest]

/-- **A whole number of 32 bits is read back.** -/
theorem spells_int {i : Int} (h : IsInt32 i) : Spells readInt32 (Decimal.signedDigits i) i := by
  cases i with
  | ofNat n => exact spells_natural h
  | negSucc n => exact spells_negative h

/-! ## Lists -/

/-- The text behind the bracket of a list: the texts of its elements and its end. -/
inductive Elements (Writes : List Char → α → Prop) : Bool → List Char → List α → Prop
  | done {first : Bool} {w : List Char} : Gap w → Elements Writes first (w ++ [']']) []
  | more {first : Bool} {w text rest : List Char} {a : α} {as : List α} :
    Separator first w → Writes text a → Elements Writes false rest as →
      Elements Writes first (w ++ text ++ rest) (a :: as)

/-- The text of a list. -/
def ListText (Writes : List Char → α → Prop) (text : List Char) (as : List α) : Prop :=
  ∃ body, text = '[' :: body ∧ Elements Writes true body as

section Elements

variable {Writes : List Char → α → Prop}

theorem Elements.mono {Writes' : List Char → α → Prop} {first : Bool} {text : List Char}
    {as : List α} (h : Elements Writes first text as)
    (himp : ∀ a ∈ as, ∀ t, Writes t a → Writes' t a) : Elements Writes' first text as := by
  induction h with
  | done hw => exact .done hw
  | @more _ _ _ _ a as hw ha _ ih =>
      exact .more hw (himp a List.mem_cons_self _ ha)
        (ih fun b hb => himp b (List.mem_cons_of_mem a hb))

theorem Elements.endsNumber {text : List Char} {as : List α} (h : Elements Writes false text as)
    (rest : List Char) : EndsNumber (text ++ rest) := by
  cases h with
  | done hw =>
      rw [List.append_assoc]
      exact endsNumber_gap_cons hw (.inr (.inl rfl)) _
  | more hw _ _ =>
      rw [List.append_assoc, List.append_assoc]
      exact hw.endsNumber _

/-- The form without white space, in front or behind another element. -/
theorem elements_compact_cons {f : α → Json} {a : α} {as : List α}
    (h : ∀ b ∈ a :: as, Writes (f b).compact b) {first : Bool} {w : List Char}
    (hw : Separator first w) :
    Elements Writes first (w ++ (compactItems ((a :: as).map f) ++ [']'])) (a :: as) := by
  have ha := h a List.mem_cons_self
  induction as generalizing a first w with
  | nil =>
      have hlast := Elements.more hw ha (.done Gap.nil)
      rw [List.append_assoc] at hlast
      exact hlast
  | cons b as ih =>
      have htail := fun x hx => h x (List.mem_cons_of_mem a hx)
      have hnext := ih htail (.comma Gap.nil Gap.nil) (htail b List.mem_cons_self)
      have hall := Elements.more hw ha hnext
      simp only [List.append_assoc, List.nil_append, List.cons_append] at hall
      simp only [List.map_cons, compactItems, List.append_assoc, List.cons_append]
      exact hall

/-- **A list without white space is a text of the list.** -/
theorem listText_compact {f : α → Json} {as : List α} (h : ∀ a ∈ as, Writes (f a).compact a) :
    ListText Writes (Json.arr (as.map f)).compact as := by
  refine ⟨_, rfl, ?_⟩
  cases as with
  | nil => exact .done Gap.nil
  | cons a as => exact elements_compact_cons h (.start Gap.nil)

end Elements

theorem nextItem_done (first : Bool) {w : List Char} (h : Gap w) (rest : List Char) :
    nextItem first (w ++ ']' :: rest) = .ok (false, ']' :: rest) := by
  rw [nextItem, skipSpace_gap_cons h (by decide)]
  rfl

theorem nextItem_more {first : Bool} {w : List Char} (h : Separator first w) {c : Char}
    (hspace : isSpace c = false) (hend : c ≠ ']') (rest : List Char) :
    nextItem first (w ++ c :: rest) = .ok (true, c :: rest) := by
  cases h with
  | start hw =>
      rw [nextItem, skipSpace_gap_cons hw hspace]
      exact if_neg hend
  | comma hw hx =>
      rw [nextItem, List.append_assoc, List.cons_append, skipSpace_gap_cons hw (by decide)]
      simp only [skipSpace_gap_cons hx hspace]
      rw [if_neg (by decide), if_neg (by decide), if_pos trivial]
      split
      · rename_i hnil
        cases hnil
      · rename_i hcons
        injection hcons with hcons
        exact absurd hcons hend
      · rfl

variable {item : Reader α}

theorem Elements.read {first : Bool} {text : List Char} {as : List α}
    (h : Elements (Spells item) first text as) (fuel : Nat) (hfuel : text.length ≤ fuel)
    (rest : List Char) : readItems item fuel first (text ++ rest) = .ok (as, rest) := by
  induction h generalizing fuel with
  | done hw =>
      rw [List.length_append, List.length_singleton] at hfuel
      obtain ⟨fuel, rfl⟩ : ∃ k, fuel = k + 1 := ⟨fuel - 1, by omega⟩
      rw [readItems, List.append_assoc, List.singleton_append, nextItem_done _ hw]
      rfl
  | @more first w text tail a as hw hitem htail ih =>
      have hpos := hitem.length_pos
      rw [List.length_append, List.length_append] at hfuel
      obtain ⟨fuel, rfl⟩ : ∃ k, fuel = k + 1 := ⟨fuel - 1, by omega⟩
      have hrest := ih fuel (by omega)
      obtain ⟨c, cs, hc, hspace, hend⟩ := hitem.starts
      have hstart : w ++ text ++ tail ++ rest = w ++ c :: (cs ++ (tail ++ rest)) := by
        rw [hc, List.append_assoc, List.append_assoc, List.cons_append]
      have htext : skipSpace (c :: (cs ++ (tail ++ rest))) = text ++ (tail ++ rest) := by
        rw [skipSpace_cons hspace, hc, List.cons_append]
      have hread := hitem.reads htext (htail.endsNumber rest)
      rw [readItems, hstart, nextItem_more hw hspace hend]
      show (item (c :: (cs ++ (tail ++ rest))) >>= fun r =>
        readItems item fuel false r.2 >>= fun q => pure (r.1 :: q.1, q.2)) = _
      rw [hread]
      show (readItems item fuel false (tail ++ rest) >>= fun q => pure (a :: q.1, q.2)) = _
      rw [hrest]
      rfl

/-- **A list is read from its elements.** -/
theorem ListText.spells {Writes : List Char → α → Prop} {text : List Char} {as : List α}
    (h : ListText Writes text as) (hitem : ∀ a ∈ as, ∀ t, Writes t a → Spells item t a) :
    Spells (readList item) text as := by
  obtain ⟨body, rfl, hbody⟩ := h
  refine ⟨⟨'[', body, rfl, by decide, by decide⟩, ?_⟩
  intro cs rest hcs _
  rw [readList, hcs, List.cons_append]
  exact (hbody.mono hitem).read _ (by rw [List.length_append]; omega) rest

/-! ## Objects -/

theorem nextKey_done (first : Bool) {w : List Char} (h : Gap w) (rest : List Char) :
    nextKey first (w ++ '\x7d' :: rest) = .ok (none, rest) := by
  rw [nextKey, skipSpace_gap_cons h (by decide)]
  rfl

theorem nextKey_more {first : Bool} {w name : List Char} {key : String} (h : Separator first w)
    (hname : Quotes name key) (rest : List Char) :
    nextKey first (w ++ (name ++ rest)) = .ok (some key, rest) := by
  obtain ⟨body, rfl, hbody⟩ := hname
  have hread := readStringRest_spelled hbody rest
  rw [List.cons_append, List.append_assoc, List.singleton_append]
  cases h with
  | start hw =>
      rw [nextKey, skipSpace_gap_cons hw (by decide)]
      show (readStringRest (body ++ '"' :: rest)).map (fun r => (some r.1, r.2)) = _
      rw [hread]
      rfl
  | comma hw hx =>
      rw [nextKey, List.append_assoc, List.cons_append, skipSpace_gap_cons hw (by decide)]
      simp only [skipSpace_gap_cons hx (c := '"') (by decide)]
      show (readStringRest (body ++ '"' :: rest)).map (fun r => (some r.1, r.2)) = _
      rw [hread]
      rfl

variable {member : σ → String → Reader σ}

theorem readMembers_end (fuel : Nat) (first : Bool) (s : σ) {w : List Char} (h : Gap w)
    (rest : List Char) :
    readMembers member (fuel + 1) first s (w ++ '\x7d' :: rest) = .ok (s, rest) := by
  rw [readMembers, nextKey_done first h]
  rfl

/-- Reading goes on behind a member that has been taken. -/
theorem readMembers_member (fuel : Nat) {first : Bool} {s s' : σ} {w name cs rest : List Char}
    {key : String} (hw : Separator first w) (hname : Quotes name key)
    (hmember : member s key cs = .ok (s', rest)) :
    readMembers member (fuel + 1) first s (w ++ (name ++ cs)) =
      readMembers member fuel false s' rest := by
  rw [readMembers, nextKey_more hw hname]
  simp only [bind, Except.bind, hmember]

theorem readColon_gap {g : List Char} (h : Gap g) (rest : List Char) :
    readColon (g ++ ':' :: rest) = .ok rest := by
  rw [readColon, skipSpace_gap_cons h (by decide)]
  rfl

/-- A field that is not set yet is read behind its colon. -/
theorem readField_spelled {key : String} {value : Reader α} {set : α → σ} {text : List Char} {a : α}
    (h : Spells value text a) {g g' rest : List Char} (hg : Gap g) (hg' : Gap g')
    (hrest : EndsNumber rest) :
    readField key none value set (g ++ ':' :: (g' ++ (text ++ rest))) = .ok (set a, rest) := by
  have hvalue : skipSpace (g' ++ (text ++ rest)) = text ++ rest := by
    obtain ⟨c, tail, rfl, hspace, -⟩ := h.starts
    exact skipSpace_gap_cons hg' hspace _
  have hread := h.reads hvalue hrest
  rw [readField]
  simp only [Option.isSome_none, Bool.false_eq_true, if_false, bind, Except.bind, readColon_gap hg,
    hread, pure, Except.pure]

end RpcConformance.Json
