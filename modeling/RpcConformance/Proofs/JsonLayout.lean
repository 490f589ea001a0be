import RpcConformance.Proofs.JsonTokens

/-!
# The pretty form of JSON is unambiguous

A form is told apart if its value can be known from the front of a text, whatever stands behind it.
Strings are, since a quote inside a string is escaped; numbers are where no digit follows.  The
first character of a value says what kind of value it is, and the end of a list or object cannot be
taken for a further element, which starts with a line break and a comma before it.  So the whole
form is told apart by induction on the value.

## Main results

* `string_toldApart`, `int_toldApart` — strings and numbers.
* `block_toldApart` — lists and objects, from their elements.
* `pretty_toldApart`, `prettyText_inj` — every value.
-/

namespace RpcConformance.Json

variable {α : Type}

/-- The text that starts with the form of a value starts with that of no other, and what stands
behind it is the same text too, as long as that is of a certain kind. -/
def ToldApart (follows : List Char → Prop) (form : α → List Char) (a : α) : Prop :=
  ∀ ⦃b : α⦄ ⦃r s : List Char⦄, follows r → follows s → form a ++ r = form b ++ s → a = b ∧ r = s

/-! ## Strings and numbers -/

theorem string_toldApart (s : String) :
    ToldApart (fun _ => True) (fun t : String => string t.toList) s := by
  intro t r u _ _ h
  have hs := readStringRest_string s r
  have ht := readStringRest_string t u
  have hbody : s.toList.flatMap escapeChar ++ '"' :: r = t.toList.flatMap escapeChar ++ '"' :: u := by
    simp only [string, List.cons_append, List.append_assoc, List.nil_append, List.cons.injEq,
      true_and] at h
    exact h
  rw [hbody, ht] at hs
  cases hs
  exact ⟨rfl, rfl⟩

theorem digits_toldApart (n : Nat) : ToldApart EndsNumber Decimal.digits n := by
  intro m r s hr hs h
  have hdigits {k : Nat} {t : List Char} (ht : EndsNumber t) :
      (Decimal.digits k ++ t).takeWhile Decimal.isDigit = Decimal.digits k := by
    rw [List.takeWhile_append_of_pos fun _ => Decimal.isDigit_of_mem_digits]
    cases t with
    | nil => rw [List.takeWhile_nil, List.append_nil]
    | cons c t =>
        have hc : Decimal.isDigit c = false := (ht c rfl).1
        rw [List.takeWhile_cons_of_neg (by rw [hc]; exact Bool.false_ne_true), List.append_nil]
  have hsame : Decimal.digits n = Decimal.digits m := by rw [← hdigits hr, h, hdigits hs]
  have hvalue : n = m := by rw [← Decimal.value_digits n, hsame, Decimal.value_digits]
  rw [hsame] at h
  exact ⟨hvalue, List.append_cancel_left h⟩

theorem minus_ne_digits {n : Nat} {r s : List Char} : '-' :: r ≠ Decimal.digits n ++ s := by
  intro h
  obtain ⟨d, ds, hds⟩ := List.exists_cons_of_ne_nil (Decimal.digits_ne_nil n)
  rw [hds, List.cons_append, List.cons.injEq] at h
  have hdigit : Decimal.isDigit d = true :=
    Decimal.isDigit_of_mem_digits (by rw [hds]; exact List.mem_cons_self)
  rw [← h.1] at hdigit
  exact absurd hdigit (by decide)

theorem int_toldApart (i : Int) : ToldApart EndsNumber Decimal.signedDigits i := by
  intro j r s hr hs h
  cases i with
  | ofNat n =>
      cases j with
      | ofNat m =>
          obtain ⟨rfl, rfl⟩ := digits_toldApart n hr hs h
          exact ⟨rfl, rfl⟩
      | negSucc m => exact absurd h.symm minus_ne_digits
  | negSucc n =>
      cases j with
      | ofNat m => exact absurd h minus_ne_digits
      | negSucc m =>
          obtain ⟨hnm, rfl⟩ := digits_toldApart (n + 1) hr hs (List.cons.inj h).2
          obtain rfl : n = m := Nat.succ.inj hnm
          exact ⟨rfl, rfl⟩

/-! ## Lists and objects -/

/-- Texts with a comma between every two of them. -/
def joined (form : α → List Char) : List α → List Char
  | [] => []
  | [a] => form a
  | a :: b :: rest => form a ++ ',' :: joined form (b :: rest)

/-- A list or an object: every piece has its line, and so has the end, unless there is no piece. -/
def block (opening closing : Char) (level : Nat) (form : α → List Char) : List α → List Char
  | [] => [opening, closing]
  | a :: as => opening :: (joined form (a :: as) ++ (newline level ++ [closing]))

theorem endsNumber_newline {r : List Char} : EndsNumber ('\n' :: r) := by
  rintro c ⟨rfl⟩
  decide

theorem endsNumber_comma {r : List Char} : EndsNumber (',' :: r) := by
  rintro c ⟨rfl⟩
  decide

variable {form : α → List Char}

/-- Behind the last piece a line breaks, and behind any other stands a comma. -/
theorem joined_toldApart {a b : α} {as bs : List α} {r s : List Char}
    (hform : ∀ x ∈ a :: as, ToldApart EndsNumber form x)
    (h : joined form (a :: as) ++ '\n' :: r = joined form (b :: bs) ++ '\n' :: s) :
    a :: as = b :: bs ∧ r = s := by
  have ha := hform a List.mem_cons_self
  induction as generalizing a b bs with
  | nil =>
      cases bs with
      | nil =>
          obtain ⟨rfl, hrest⟩ := ha endsNumber_newline endsNumber_newline h
          exact ⟨rfl, (List.cons.inj hrest).2⟩
      | cons b' bs =>
          rw [joined, joined, List.append_assoc] at h
          obtain ⟨-, hrest⟩ := ha endsNumber_newline endsNumber_comma h
          exact absurd (List.cons.inj hrest).1 (by decide)
  | cons a' as ih =>
      cases bs with
      | nil =>
          rw [joined, joined, List.append_assoc] at h
          obtain ⟨-, hrest⟩ := ha endsNumber_comma endsNumber_newline h
          exact absurd (List.cons.inj hrest).1 (by decide)
      | cons b' bs =>
          rw [joined, joined, List.append_assoc, List.append_assoc] at h
          obtain ⟨rfl, hrest⟩ := ha endsNumber_comma endsNumber_comma h
          have htail := fun x hx => hform x (List.mem_cons_of_mem a hx)
          obtain ⟨htails, hrs⟩ := ih htail (List.cons.inj hrest).2 (htail a' List.mem_cons_self)
          exact ⟨congrArg (a :: ·) htails, hrs⟩

/-- A list or an object is told apart if its pieces are and each starts on a line of its own. -/
theorem block_toldApart {opening closing : Char} {level : Nat} {as : List α}
    (hclosing : closing ≠ '\n') (hstart : ∀ x, ∃ t, form x = '\n' :: t)
    (hform : ∀ x ∈ as, ToldApart EndsNumber form x) :
    ToldApart EndsNumber (block opening closing level form) as := by
  have hfirst (x : α) (xs : List α) : ∃ t, joined form (x :: xs) = '\n' :: t := by
    obtain ⟨t, ht⟩ := hstart x
    cases xs with
    | nil => exact ⟨t, ht⟩
    | cons y ys => exact ⟨_, by rw [joined, ht]; rfl⟩
  intro bs r s hr hs h
  cases as with
  | nil =>
      cases bs with
      | nil => exact ⟨rfl, List.append_cancel_left h⟩
      | cons b bs =>
          obtain ⟨t, ht⟩ := hfirst b bs
          rw [block, block, ht] at h
          exact absurd (List.cons.inj (List.cons.inj h).2).1 hclosing
  | cons a as =>
      cases bs with
      | nil =>
          obtain ⟨t, ht⟩ := hfirst a as
          rw [block, block, ht] at h
          exact absurd (List.cons.inj (List.cons.inj h).2).1.symm hclosing
      | cons b bs =>
          simp only [block, newline, List.cons_append, List.append_assoc, List.cons.injEq,
            true_and] at h
          obtain ⟨hlists, hrest⟩ := joined_toldApart hform h
          exact ⟨hlists, (List.cons.inj (List.append_cancel_left hrest)).2⟩

/-- The line of an element. -/
def itemLine (level : Nat) (v : Json) : List Char := newline level ++ v.pretty level

/-- The line of a member. -/
def memberLine (level : Nat) (m : String × Json) : List Char :=
  newline level ++ (string m.1.toList ++ ':' :: ' ' :: m.2.pretty level)

theorem prettyItems_eq (level : Nat) (v : Json) (rest : List Json) :
    prettyItems level (v :: rest) = joined (itemLine level) (v :: rest) := by
  induction rest generalizing v with
  | nil => rfl
  | cons w rest ih => rw [prettyItems, joined, ih w, itemLine, List.append_assoc]

theorem prettyMembers_eq (level : Nat) (m : String × Json) (rest : List (String × Json)) :
    prettyMembers level (m :: rest) = joined (memberLine level) (m :: rest) := by
  induction rest generalizing m with
  | nil => rw [prettyMembers, joined, memberLine, List.append_assoc]
  | cons n rest ih => simp only [prettyMembers, joined, ih n, memberLine, List.append_assoc,
      List.cons_append]

theorem pretty_arr (level : Nat) (items : List Json) :
    (arr items).pretty level = block '[' ']' level (itemLine (level + 1)) items := by
  cases items with
  | nil => rfl
  | cons v rest => simp only [pretty, prettyItems_eq, block, List.cons_append, List.append_assoc]

theorem pretty_obj (level : Nat) (members : List (String × Json)) :
    (obj members).pretty level = block '\x7b' '\x7d' level (memberLine (level + 1)) members := by
  cases members with
  | nil => rfl
  | cons m rest => simp only [pretty, prettyMembers_eq, block, List.cons_append, List.append_assoc]

/-! ## Kinds of values -/

/-- What a value is. -/
inductive Kind
  | null
  | bool (b : Bool)
  | number
  | text
  | list
  | object

def kind : Json → Kind
  | null => .null
  | bool b => .bool b
  | int _ => .number
  | str _ => .text
  | arr _ => .list
  | obj _ => .object

/-- What a value is that starts with the character. -/
def Kind.ofStart (c : Char) : Kind :=
  if c = 'n' then .null
  else if c = 't' then .bool true
  else if c = 'f' then .bool false
  else if c = '"' then .text
  else if c = '[' then .list
  else if c = '\x7b' then .object
  else .number

theorem ofStart_digit {c : Char} (h : Decimal.isDigit c = true) : Kind.ofStart c = .number := by
  have hne (d : Char) (hd : Decimal.isDigit d = false) : c ≠ d := by
    rintro rfl
    rw [h] at hd
    cases hd
  simp only [Kind.ofStart, if_neg (hne 'n' rfl), if_neg (hne 't' rfl), if_neg (hne 'f' rfl),
    if_neg (hne '"' rfl), if_neg (hne '[' rfl), if_neg (hne '\x7b' rfl)]

/-- The first character of a value says what it is. -/
theorem pretty_starts (level : Nat) (v : Json) :
    ∃ c rest, v.pretty level = c :: rest ∧ Kind.ofStart c = v.kind := by
  cases v with
  | null => exact ⟨'n', _, rfl, rfl⟩
  | bool b =>
      cases b with
      | true => exact ⟨'t', _, rfl, rfl⟩
      | false => exact ⟨'f', _, rfl, rfl⟩
  | int i =>
      cases i with
      | ofNat n =>
          obtain ⟨d, ds, hds⟩ := List.exists_cons_of_ne_nil (Decimal.digits_ne_nil n)
          have hdigit : Decimal.isDigit d = true :=
            Decimal.isDigit_of_mem_digits (by rw [hds]; exact List.mem_cons_self)
          exact ⟨d, ds, hds, ofStart_digit hdigit⟩
      | negSucc n => exact ⟨'-', _, rfl, rfl⟩
  | str s => exact ⟨'"', _, rfl, rfl⟩
  | arr items => cases items <;> exact ⟨'[', _, rfl, rfl⟩
  | obj members => cases members <;> exact ⟨'\x7b', _, rfl, rfl⟩

theorem kind_eq {v w : Json} {level : Nat} {r s : List Char}
    (h : v.pretty level ++ r = w.pretty level ++ s) : v.kind = w.kind := by
  obtain ⟨c, cs, hv, hc⟩ := pretty_starts level v
  obtain ⟨d, ds, hw, hd⟩ := pretty_starts level w
  rw [hv, hw, List.cons_append, List.cons_append, List.cons.injEq] at h
  rw [← hc, ← hd, h.1]

/-! ## Values -/

/-- An induction on a value over the elements of lists and the values of members. -/
theorem nestedInduction {P : Json → Prop} (null : P null) (bool : ∀ b, P (bool b))
    (int : ∀ i, P (int i)) (str : ∀ s, P (str s))
    (arr : ∀ items : List Json, (∀ v ∈ items, P v) → P (arr items))
    (obj : ∀ members : List (String × Json), (∀ m ∈ members, P m.2) → P (obj members)) :
    (v : Json) → P v
  | .null => null
  | .bool b => bool b
  | .int i => int i
  | .str s => str s
  | .arr items => arr items fun v hv =>
    have := List.sizeOf_lt_of_mem hv
    nestedInduction null bool int str arr obj v
  | .obj members => obj members fun m hm =>
    have := List.sizeOf_lt_of_mem hm
    nestedInduction null bool int str arr obj m.2
termination_by v => sizeOf v
decreasing_by
  · simp only [Json.arr.sizeOf_spec]
    omega
  · cases m
    simp only [Json.obj.sizeOf_spec, Prod.mk.sizeOf_spec] at *
    omega

/-- **Every value is told apart** where nothing that stands behind it continues a number. -/
theorem pretty_toldApart (level : Nat) (v : Json) : ToldApart EndsNumber (pretty level) v := by
  induction v using nestedInduction generalizing level with
  | null =>
      intro w r s _ _ h
      have hkind := kind_eq h
      cases w with
      | null => exact ⟨rfl, List.append_cancel_left h⟩
      | _ => cases hkind
  | bool b =>
      intro w r s _ _ h
      have hkind := kind_eq h
      cases w with
      | bool b' =>
          cases hkind
          exact ⟨rfl, List.append_cancel_left h⟩
      | _ => cases hkind
  | int i =>
      intro w r s hr hs h
      have hkind := kind_eq h
      cases w with
      | int j =>
          obtain ⟨rfl, hrest⟩ := int_toldApart i hr hs h
          exact ⟨rfl, hrest⟩
      | _ => cases hkind
  | str t =>
      intro w r s _ _ h
      have hkind := kind_eq h
      cases w with
      | str u =>
          obtain ⟨rfl, hrest⟩ := string_toldApart t trivial trivial h
          exact ⟨rfl, hrest⟩
      | _ => cases hkind
  | arr items ih =>
      intro w r s hr hs h
      have hkind := kind_eq h
      have hline : ∀ v ∈ items, ToldApart EndsNumber (itemLine (level + 1)) v := by
        intro v hv b r s hr hs h
        simp only [itemLine, List.append_assoc] at h
        exact ih v hv (level + 1) hr hs (List.append_cancel_left h)
      cases w with
      | arr others =>
          rw [pretty_arr, pretty_arr] at h
          obtain ⟨rfl, hrest⟩ :=
            block_toldApart (by decide) (fun _ => ⟨_, rfl⟩) hline hr hs h
          exact ⟨rfl, hrest⟩
      | _ => cases hkind
  | obj members ih =>
      intro w r s hr hs h
      have hkind := kind_eq h
      have hline : ∀ m ∈ members, ToldApart EndsNumber (memberLine (level + 1)) m := by
        rintro ⟨key, v⟩ hm ⟨key', v'⟩ r s hr hs h
        simp only [memberLine, List.append_assoc, List.cons_append] at h
        obtain ⟨rfl, hvalue⟩ :=
          string_toldApart key trivial trivial (List.append_cancel_left h)
        obtain ⟨rfl, hrest⟩ := ih (key, v) hm (level + 1) hr hs
          (List.cons.inj (List.cons.inj hvalue).2).2
        exact ⟨rfl, hrest⟩
      cases w with
      | obj others =>
          rw [pretty_obj, pretty_obj] at h
          obtain ⟨rfl, hrest⟩ :=
            block_toldApart (by decide) (fun _ => ⟨_, rfl⟩) hline hr hs h
          exact ⟨rfl, hrest⟩
      | _ => cases hkind

/-- **A value is known from its pretty form.** -/
theorem prettyText_inj {v w : Json} : v.prettyText = w.prettyText ↔ v = w := by
  constructor
  · intro h
    have hend : EndsNumber [] := nofun
    have hchars : v.pretty 0 ++ [] = w.pretty 0 ++ [] := by
      rw [List.append_nil, List.append_nil]
      exact String.ofList_injective h
    exact (pretty_toldApart 0 v hend hend hchars).1
  · rintro rfl
    rfl

end RpcConformance.Json
