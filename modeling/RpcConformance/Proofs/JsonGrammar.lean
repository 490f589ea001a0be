import RpcConformance.Proofs.JsonRecords

/-!
# The grammar of JSON, and the values that are skipped

`Derives` is the grammar of a value, of the elements of a list and of the members of an object, with
white space wherever it may stand.  It asks nothing of a value but its form: numbers may be of any
size, strings may spell no text, and names may come again.

A value that nobody asked for is skipped by looking at brackets, quotes and the form of numbers.  It
is skipped whole, at any depth: the reader stands right behind it afterwards.

## Main results

* `Derives.skip` — what the grammar derives is skipped.
* `skipValue_spelled`, `skipFieldOf_spelled` — so is the value of an unknown field.
-/

namespace RpcConformance.Json

/-! ## Numbers -/

/-- Digits, at least one. -/
def IsDigits (ds : List Char) : Prop := ds ≠ [] ∧ ∀ c ∈ ds, Decimal.isDigit c = true

/-- The digits in front of the point: no zero stands before others. -/
inductive IsWhole : List Char → Prop
  | zero : IsWhole ['0']
  | digits {d : Char} {ds : List Char} :
    Decimal.isDigit d = true → d ≠ '0' → (∀ c ∈ ds, Decimal.isDigit c = true) → IsWhole (d :: ds)

/-- The point and the digits behind it, if there are any. -/
inductive IsFraction : List Char → Prop
  | none : IsFraction []
  | digits {ds : List Char} : IsDigits ds → IsFraction ('.' :: ds)

/-- The exponent, if there is one. -/
inductive IsExponent : List Char → Prop
  | none : IsExponent []
  | digits {letter : Char} {sign ds : List Char} :
    letter = 'e' ∨ letter = 'E' → sign = [] ∨ sign = ['+'] ∨ sign = ['-'] → IsDigits ds →
      IsExponent (letter :: (sign ++ ds))

/-- A number without its sign. -/
def IsUnsigned (text : List Char) : Prop :=
  ∃ whole fraction exponent, text = whole ++ (fraction ++ exponent) ∧
    IsWhole whole ∧ IsFraction fraction ∧ IsExponent exponent

/-- A number, of any size. -/
inductive IsNumber : List Char → Prop
  | positive {text : List Char} : IsUnsigned text → IsNumber text
  | negative {text : List Char} : IsUnsigned text → IsNumber ('-' :: text)

theorem skipDigits_append {ds : List Char} (h : ∀ c ∈ ds, Decimal.isDigit c = true)
    {rest : List Char} (hrest : startsWithDigit rest = false) : skipDigits (ds ++ rest) = rest := by
  rw [skipDigits, List.dropWhile_append_of_pos h]
  cases rest with
  | nil => rfl
  | cons c rest =>
      have hc : Decimal.isDigit c = false := hrest
      exact List.dropWhile_cons_of_neg (by rw [hc]; exact Bool.false_ne_true)

theorem IsDigits.startsWithDigit {ds : List Char} (h : IsDigits ds) (rest : List Char) :
    startsWithDigit (ds ++ rest) = true := by
  obtain ⟨hne, hdigits⟩ := h
  obtain ⟨d, ds, rfl⟩ := List.exists_cons_of_ne_nil hne
  exact hdigits d List.mem_cons_self

theorem IsExponent.startsWithDigit {e : List Char} (h : IsExponent e) {rest : List Char}
    (hrest : EndsNumber rest) : startsWithDigit (e ++ rest) = false := by
  cases h with
  | none => exact hrest.startsWithDigit
  | digits hletter _ _ => rcases hletter with rfl | rfl <;> rfl

theorem IsFraction.startsWithDigit {f e : List Char} (hf : IsFraction f) (he : IsExponent e)
    {rest : List Char} (hrest : EndsNumber rest) :
    Json.startsWithDigit (f ++ (e ++ rest)) = false := by
  cases hf with
  | none => exact he.startsWithDigit hrest
  | digits _ => rfl

/-- The sign of an exponent is passed over. -/
theorem skipExponent_spelled {sign ds : List Char} (hsign : sign = [] ∨ sign = ['+'] ∨ sign = ['-'])
    (hds : IsDigits ds) {rest : List Char} (hrest : startsWithDigit rest = false) :
    skipExponent (sign ++ ds ++ rest) = .ok rest := by
  have hskip := skipDigits_append hds.2 hrest
  have hstart := hds.startsWithDigit rest
  rcases hsign with rfl | rfl | rfl
  · obtain ⟨hne, hdigits⟩ := hds
    obtain ⟨d, ds, rfl⟩ := List.exists_cons_of_ne_nil hne
    have hd := hdigits d List.mem_cons_self
    rw [List.nil_append]
    unfold skipExponent
    split
    · rename_i hplus
      cases hplus
      exact absurd hd (by decide)
    · rename_i hminus
      cases hminus
      exact absurd hd (by decide)
    · rw [if_pos hstart, hskip]
  · exact (if_pos hstart).trans (congrArg Except.ok hskip)
  · exact (if_pos hstart).trans (congrArg Except.ok hskip)

theorem skipRealEnd_spelled {e : List Char} (he : IsExponent e) {rest : List Char}
    (hrest : EndsNumber rest) : skipRealEnd (e ++ rest) = .ok rest := by
  cases he with
  | none =>
      rw [List.nil_append]
      unfold skipRealEnd
      split
      · exact absurd rfl (hrest _ rfl).2.2.1
      · exact absurd rfl (hrest _ rfl).2.2.2
      · rfl
  | digits hletter hsign hds =>
      have hskip := skipExponent_spelled hsign hds hrest.startsWithDigit
      rcases hletter with rfl | rfl <;> exact hskip

theorem skipNumberEnd_spelled {f e : List Char} (hf : IsFraction f) (he : IsExponent e)
    {rest : List Char} (hrest : EndsNumber rest) :
    skipNumberEnd (f ++ (e ++ rest)) = .ok rest := by
  have hreal := skipRealEnd_spelled he hrest
  cases hf with
  | none =>
      rw [List.nil_append]
      unfold skipNumberEnd
      split
      · rename_i hpoint
        cases he with
        | none =>
            rw [List.nil_append] at hpoint
            exact absurd rfl (hrest '.' (congrArg List.head? hpoint)).2.1
        | digits hletter _ _ =>
            injection hpoint with hpoint
            rcases hletter with rfl | rfl <;> exact absurd hpoint (by decide)
      · exact hreal
  | digits hds =>
      rw [List.cons_append, skipNumberEnd, if_pos (hds.startsWithDigit _),
        skipDigits_append hds.2 (he.startsWithDigit hrest), hreal]

theorem skipNumber_spelled {text : List Char} (h : IsUnsigned text) {rest : List Char}
    (hrest : EndsNumber rest) : skipNumber (text ++ rest) = .ok rest := by
  obtain ⟨whole, f, e, rfl, hwhole, hf, he⟩ := h
  have hend := skipNumberEnd_spelled hf he hrest
  have hstop := hf.startsWithDigit he hrest
  rw [List.append_assoc, List.append_assoc]
  cases hwhole with
  | zero =>
      rw [List.singleton_append, skipNumber, if_neg (by rw [hstop]; decide), hend]
  | @digits d ds hd hzero hds =>
      have hall : ∀ c ∈ d :: ds, Decimal.isDigit c = true := List.forall_mem_cons.mpr ⟨hd, hds⟩
      have hstart : startsWithDigit (d :: ds ++ (f ++ (e ++ rest))) = true := hd
      unfold skipNumber
      split
      · rename_i hfirst
        injection hfirst with hfirst
        exact absurd hfirst hzero
      · rw [if_pos hstart, skipDigits_append hall hstop, hend]

theorem IsUnsigned.starts {text : List Char} (h : IsUnsigned text) :
    ∃ d tail, text = d :: tail ∧ Decimal.isDigit d = true := by
  obtain ⟨whole, f, e, rfl, hwhole, -⟩ := h
  cases hwhole with
  | zero => exact ⟨'0', f ++ e, rfl, rfl⟩
  | @digits d ds hd _ _ => exact ⟨d, ds ++ (f ++ e), rfl, hd⟩

/-! ## Values -/

/-- What a text may be: a value, or what stands behind the bracket of a list or the brace of an
object, in front of the first piece or behind another. -/
inductive Part
  | value
  | items (first : Bool)
  | members (first : Bool)

/-- The values that are words. -/
def words : List (List Char) :=
  [['n', 'u', 'l', 'l'], ['t', 'r', 'u', 'e'], ['f', 'a', 'l', 's', 'e']]

/-- The grammar of JSON. -/
inductive Derives : Part → List Char → Prop
  | word {text : List Char} : text ∈ words → Derives .value text
  | number {text : List Char} : IsNumber text → Derives .value text
  | string {text : List Char} : IsString text → Derives .value text
  | list {text : List Char} : Derives (.items true) text → Derives .value ('[' :: text)
  | object {text : List Char} : Derives (.members true) text → Derives .value ('\x7b' :: text)
  | itemsEnd {first : Bool} {w : List Char} : Gap w → Derives (.items first) (w ++ [']'])
  | item {first : Bool} {w text rest : List Char} :
    Separator first w → Derives .value text → Derives (.items false) rest →
      Derives (.items first) (w ++ (text ++ rest))
  | membersEnd {first : Bool} {w : List Char} : Gap w → Derives (.members first) (w ++ ['\x7d'])
  | member {first : Bool} {w name g g' text rest : List Char} :
    Separator first w → IsString name → Gap g → Gap g' → Derives .value text →
      Derives (.members false) rest →
      Derives (.members first) (w ++ (name ++ (g ++ ':' :: (g' ++ (text ++ rest)))))

/-- A value of any kind. -/
abbrev IsValue (text : List Char) : Prop := Derives .value text

/-- A value starts with a character that is neither white space nor the end of a list. -/
theorem Derives.starts {text : List Char} (h : IsValue text) :
    ∃ c tail, text = c :: tail ∧ isSpace c = false ∧ c ≠ ']' := by
  cases h with
  | word hword =>
      obtain rfl | rfl | rfl : text = _ ∨ text = _ ∨ text = _ := by simpa [words] using hword
      all_goals exact ⟨_, _, rfl, by decide, by decide⟩
  | number hnumber =>
      cases hnumber with
      | positive hunsigned =>
          obtain ⟨d, tail, rfl, hd⟩ := hunsigned.starts
          refine ⟨d, tail, rfl, isSpace_digit hd, ?_⟩
          rintro rfl
          exact absurd hd (by decide)
      | negative _ => exact ⟨_, _, rfl, by decide, by decide⟩
  | string hstring =>
      obtain ⟨body, rfl, -⟩ := hstring
      exact ⟨_, _, rfl, by decide, by decide⟩
  | list _ => exact ⟨_, _, rfl, by decide, by decide⟩
  | object _ => exact ⟨_, _, rfl, by decide, by decide⟩

theorem Derives.skipSpace {text : List Char} (h : IsValue text) (rest : List Char) :
    skipSpace (text ++ rest) = text ++ rest := by
  obtain ⟨c, tail, rfl, hspace, -⟩ := h.starts
  exact skipSpace_cons hspace _

theorem Derives.length_pos {part : Part} {text : List Char} (h : Derives part text) :
    0 < text.length := by
  have hvalue {t : List Char} (ht : IsValue t) : 0 < t.length := by
    obtain ⟨c, tail, rfl, -⟩ := ht.starts
    exact Nat.succ_pos _
  cases h with
  | word hword => exact hvalue (.word hword)
  | number hnumber => exact hvalue (.number hnumber)
  | string hstring => exact hvalue (.string hstring)
  | list _ | object _ => exact Nat.succ_pos _
  | itemsEnd _ | membersEnd _ => exact List.length_pos_iff.mpr (List.concat_ne_nil _ _)
  | item _ ht _ =>
      have := hvalue ht
      rw [List.length_append, List.length_append]
      omega
  | member _ _ _ _ _ _ =>
      simp only [List.length_append, List.length_cons]
      omega

/-- Nothing behind an element of a list continues a number. -/
theorem Derives.items_endsNumber {text : List Char} (h : Derives (.items false) text)
    (rest : List Char) : EndsNumber (text ++ rest) := by
  cases h with
  | itemsEnd hw =>
      rw [List.append_assoc]
      exact endsNumber_gap_cons hw (.inr (.inl rfl)) _
  | item hw _ _ =>
      rw [List.append_assoc]
      exact hw.endsNumber _

theorem Derives.members_endsNumber {text : List Char} (h : Derives (.members false) text)
    (rest : List Char) : EndsNumber (text ++ rest) := by
  cases h with
  | membersEnd hw =>
      rw [List.append_assoc]
      exact endsNumber_gap_cons hw (.inr (.inr rfl)) _
  | member hw _ _ _ _ _ =>
      rw [List.append_assoc]
      exact hw.endsNumber _

/-! ## One step of skipping -/

theorem skipScalar_number {text : List Char} (h : IsNumber text) {rest : List Char}
    (hrest : EndsNumber rest) :
    ∃ c tail, text ++ rest = c :: tail ∧ c ≠ '[' ∧ c ≠ '\x7b' ∧ skipScalar c tail = .ok rest := by
  cases h with
  | positive hunsigned =>
      have hskip := skipNumber_spelled hunsigned hrest
      obtain ⟨d, tail, rfl, hd⟩ := hunsigned.starts
      have hne {c : Char} (hc : Decimal.isDigit c = false) : d ≠ c := by
        rintro rfl
        exact Bool.false_ne_true (hc.symm.trans hd)
      refine ⟨d, tail ++ rest, rfl, hne (by decide), hne (by decide), ?_⟩
      rw [skipScalar, if_neg (hne (by decide)), if_neg (hne (by decide)), if_neg (hne (by decide)),
        if_neg (hne (by decide)), if_neg (hne (by decide)), if_pos hd]
      exact hskip
  | negative hunsigned =>
      exact ⟨_, _, rfl, by decide, by decide, skipNumber_spelled hunsigned hrest⟩

theorem skipValueWithin_scalar {c : Char} {cs tail rest : List Char} (fuel : Nat)
    (hcs : skipSpace cs = c :: tail) (hlist : c ≠ '[') (hobject : c ≠ '\x7b')
    (hskip : skipScalar c tail = .ok rest) : skipValueWithin (fuel + 1) cs = .ok rest := by
  unfold skipValueWithin
  split
  · rename_i hnil
    cases hcs.symm.trans hnil
  · rename_i hopen
    injection hcs.symm.trans hopen with hc
    exact absurd hc hlist
  · rename_i hopen
    injection hcs.symm.trans hopen with hc
    exact absurd hc hobject
  · rename_i hother
    injection hcs.symm.trans hother with hc htail
    rw [← hc, ← htail, hskip]

theorem skipItems_end {cs rest : List Char} (fuel : Nat) (first : Bool)
    (hcs : skipSpace cs = ']' :: rest) : skipItems (fuel + 1) first cs = .ok rest := by
  rw [skipItems, hcs]
  rfl

theorem skipItems_item {first : Bool} {w : List Char} (hw : Separator first w) {c : Char}
    (hspace : isSpace c = false) (hend : c ≠ ']') {cs tail : List Char}
    (hcs : skipSpace cs = skipSpace (w ++ c :: tail)) (fuel : Nat) :
    ∃ next, skipSpace next = c :: tail ∧
      skipItems (fuel + 1) first cs =
        skipValueWithin fuel next >>= fun rest => skipItems fuel false rest := by
  cases hw with
  | start hw =>
      refine ⟨c :: tail, skipSpace_cons hspace tail, ?_⟩
      rw [skipSpace_gap_cons hw hspace] at hcs
      rw [skipItems.eq_def]
      simp only [hcs]
      exact if_pos trivial
  | @comma w x hw hx =>
      refine ⟨x ++ c :: tail, skipSpace_gap_cons hx hspace tail, ?_⟩
      rw [List.append_assoc, List.cons_append, skipSpace_gap_cons hw (by decide)] at hcs
      rw [skipItems, hcs]
      rfl

theorem skipMembers_end {cs rest : List Char} (fuel : Nat) (first : Bool)
    (hcs : skipSpace cs = '\x7d' :: rest) : skipMembers (fuel + 1) first cs = .ok rest := by
  rw [skipMembers, hcs]
  rfl

theorem skipMembers_member {first : Bool} {w : List Char} (hw : Separator first w)
    {cs tail : List Char} (hcs : skipSpace cs = skipSpace (w ++ '"' :: tail)) (fuel : Nat) :
    ∃ next, skipSpace next = '"' :: tail ∧
      skipMembers (fuel + 1) first cs =
        skipKey next >>= fun rest => skipValueWithin fuel rest >>= fun rest =>
          skipMembers fuel false rest := by
  cases hw with
  | start hw =>
      refine ⟨'"' :: tail, skipSpace_cons (by decide) tail, ?_⟩
      rw [skipSpace_gap_cons hw (by decide)] at hcs
      rw [skipMembers, hcs]
      rfl
  | @comma w x hw hx =>
      refine ⟨x ++ '"' :: tail, skipSpace_gap_cons hx (by decide) tail, ?_⟩
      rw [List.append_assoc, List.cons_append, skipSpace_gap_cons hw (by decide)] at hcs
      rw [skipMembers, hcs]
      rfl

theorem skipKey_spelled {name g cs rest : List Char} (hname : IsString name) (hg : Gap g)
    (hcs : skipSpace cs = name ++ (g ++ ':' :: rest)) : skipKey cs = .ok rest := by
  obtain ⟨body, rfl, hbody⟩ := hname
  have hskip := skipStringRest_body hbody (g ++ ':' :: rest)
  have hcolon : skipSpace (g ++ ':' :: rest) = ':' :: rest := skipSpace_gap_cons hg (by decide) rest
  rw [List.cons_append, List.append_assoc, List.singleton_append] at hcs
  rw [skipKey, hcs]
  simp only [hskip, bind, Except.bind, hcolon, pure, Except.pure]

/-! ## Skipping -/

/-- Skips a value, or the rest of a list or of an object. -/
def skipPart : Part → Nat → List Char → Except ReadError (List Char)
  | .value, fuel, cs => skipValueWithin fuel cs
  | .items first, fuel, cs => skipItems fuel first cs
  | .members first, fuel, cs => skipMembers fuel first cs

/-- **What the grammar derives is skipped**, with as many steps as it has characters. -/
theorem Derives.skip {part : Part} {text : List Char} (h : Derives part text) {fuel : Nat}
    (hfuel : text.length ≤ fuel) {cs rest : List Char}
    (hcs : Json.skipSpace cs = Json.skipSpace (text ++ rest)) (hrest : EndsNumber rest) :
    skipPart part fuel cs = .ok rest := by
  obtain ⟨fuel, rfl⟩ : ∃ k, fuel = k + 1 := ⟨fuel - 1, by have := h.length_pos; omega⟩
  -- Every part of a text is shorter than the text, since no part is empty: so one step of the fuel
  -- is enough to come from a text to its parts.
  induction h generalizing fuel cs rest with
  | word hword =>
      rw [(Derives.word hword).skipSpace rest] at hcs
      obtain rfl | rfl | rfl : _ = _ ∨ _ = _ ∨ _ = _ := by simpa [words] using hword
      all_goals exact skipValueWithin_scalar fuel hcs (by decide) (by decide) rfl
  | number hnumber =>
      obtain ⟨c, tail, htext, hlist, hobject, hskip⟩ := skipScalar_number hnumber hrest
      rw [(Derives.number hnumber).skipSpace rest, htext] at hcs
      exact skipValueWithin_scalar fuel hcs hlist hobject hskip
  | string hstring =>
      rw [(Derives.string hstring).skipSpace rest] at hcs
      obtain ⟨body, rfl, hbody⟩ := hstring
      rw [List.cons_append, List.append_assoc] at hcs
      exact skipValueWithin_scalar fuel hcs (by decide) (by decide) (skipStringRest_body hbody rest)
  | @list text hitems ih =>
      have hpos := hitems.length_pos
      rw [List.length_cons] at hfuel
      obtain ⟨fuel, rfl⟩ : ∃ k, fuel = k + 1 := ⟨fuel - 1, by omega⟩
      have hskip := ih (rfl : Json.skipSpace (text ++ rest) = _) hrest fuel (by omega)
      rw [skipPart, skipValueWithin, hcs]
      exact hskip
  | @object text hmembers ih =>
      have hpos := hmembers.length_pos
      rw [List.length_cons] at hfuel
      obtain ⟨fuel, rfl⟩ : ∃ k, fuel = k + 1 := ⟨fuel - 1, by omega⟩
      have hskip := ih (rfl : Json.skipSpace (text ++ rest) = _) hrest fuel (by omega)
      rw [skipPart, skipValueWithin, hcs]
      exact hskip
  | itemsEnd hw =>
      rw [List.append_assoc, List.singleton_append, skipSpace_gap_cons hw (by decide)] at hcs
      exact skipItems_end fuel _ hcs
  | @item first w text tail hw hvalue htail ih ihtail =>
      have hpos := hvalue.length_pos
      have hpos' := htail.length_pos
      rw [List.length_append, List.length_append] at hfuel
      obtain ⟨fuel, rfl⟩ : ∃ k, fuel = k + 1 := ⟨fuel - 1, by omega⟩
      have hstart := hvalue.skipSpace (tail ++ rest)
      obtain ⟨c, cs', rfl, hspace, hend⟩ := hvalue.starts
      simp only [List.append_assoc, List.cons_append] at hcs hstart
      obtain ⟨next, hnext, hstep⟩ := skipItems_item hw hspace hend hcs (fuel + 1)
      have hskip := ih (hnext.trans hstart.symm) (htail.items_endsNumber rest) fuel (by omega)
      have hskip' := ihtail (rfl : Json.skipSpace (tail ++ rest) = _) hrest fuel (by omega)
      rw [skipPart, hstep]
      exact (congrArg (· >>= _) hskip).trans hskip'
  | membersEnd hw =>
      rw [List.append_assoc, List.singleton_append, skipSpace_gap_cons hw (by decide)] at hcs
      exact skipMembers_end fuel _ hcs
  | @member first w name g g' text tail hw hname hg hg' hvalue htail ih ihtail =>
      have hpos := hvalue.length_pos
      have hpos' := htail.length_pos
      simp only [List.length_append, List.length_cons] at hfuel
      obtain ⟨fuel, rfl⟩ : ∃ k, fuel = k + 1 := ⟨fuel - 1, by omega⟩
      have hname' := hname
      obtain ⟨body, rfl, -⟩ := hname
      simp only [List.append_assoc, List.cons_append] at hcs
      obtain ⟨next, hnext, hstep⟩ := skipMembers_member hw hcs (fuel + 1)
      have hkey : skipKey next = .ok (g' ++ (text ++ (tail ++ rest))) :=
        skipKey_spelled hname' hg (by simp only [hnext, List.append_assoc, List.cons_append])
      have hskip := ih (skipSpace_gap hg' (text ++ (tail ++ rest)))
        (htail.members_endsNumber rest) fuel (by omega)
      have hskip' := ihtail (rfl : Json.skipSpace (tail ++ rest) = _) hrest fuel (by omega)
      rw [skipPart, hstep, hkey]
      exact (congrArg (· >>= _) hskip).trans hskip'

/-- **A value is skipped**, whatever white space stands before it. -/
theorem skipValue_spelled {text : List Char} (h : IsValue text) {g rest : List Char} (hg : Gap g)
    (hrest : EndsNumber rest) : skipValue (g ++ (text ++ rest)) = .ok rest := by
  refine h.skip ?_ (skipSpace_gap hg _) hrest
  simp only [List.length_append]
  omega

/-- **The value of an unknown field is skipped**, with its colon. -/
theorem skipFieldOf_spelled {σ : Type} (s : σ) {g g' text rest : List Char} (hg : Gap g)
    (hg' : Gap g') (h : IsValue text) (hrest : EndsNumber rest) :
    skipFieldOf s (g ++ ':' :: (g' ++ (text ++ rest))) = .ok (s, rest) := by
  rw [skipFieldOf, readColon_gap hg]
  simp only [bind, Except.bind, skipValue_spelled h hg' hrest, pure, Except.pure]

end RpcConformance.Json
