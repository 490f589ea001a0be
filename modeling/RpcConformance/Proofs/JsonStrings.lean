import Mathlib.Tactic.SplitIfs
import RpcConformance.Json.Skip
import RpcConformance.Json.Text

/-!
# The spelling of JSON strings

A character of a string stands for itself unless it is a quote, a backslash or a control character;
any character may be escaped, by a letter, by the number of its code unit or by the numbers of the
two halves of a surrogate pair.  So a text has many spellings, all of which are read as that text,
and the one that is written is among them.

The number of one half of a pair alone is a code unit but no character: such a string spells no text
and cannot be read, though it can be skipped.

## Main results

* `readStringRest_spelled`, `Quotes.unique` — every spelling of a text is read as that text, and
  no string spells two.
* `quotes_string`, `readStringRest_string` — what is written is a spelling, so it is read back.
* `skipStringRest_body` — every string is skipped.
-/

namespace RpcConformance.Json

/-! ## Spellings -/

/-- Four hexadecimal digits and the code unit that has their number. -/
inductive CodeUnit : List Char → Nat → Prop
  | digits {w x y z : Char} {a b c d : Nat} :
    Hexadecimal.value? w.toNat = some a → Hexadecimal.value? x.toNat = some b →
      Hexadecimal.value? y.toNat = some c → Hexadecimal.value? z.toNat = some d →
      CodeUnit [w, x, y, z] (((a * 16 + b) * 16 + c) * 16 + d)

/-- The letters of escapes, each with the character that it stands for. -/
def shortEscapes : List (Char × Char) :=
  [('"', '"'), ('\\', '\\'), ('/', '/'), ('b', Char.ofNat 8), ('f', Char.ofNat 12), ('n', '\n'),
    ('r', '\r'), ('t', '\t')]

/-- A character that may stand for itself. -/
def IsPlain (c : Char) : Prop := c ≠ '"' ∧ c ≠ '\\' ∧ 0x20 ≤ c.toNat

/-- What stands for a character behind a backslash. -/
inductive Escapes : List Char → Char → Prop
  | short {e c : Char} : (e, c) ∈ shortEscapes → Escapes [e] c
  | code {ds : List Char} {c : Char} : CodeUnit ds c.toNat → Escapes ('u' :: ds) c
  | pair {hs ls : List Char} {high low : Nat} {c : Char} :
    CodeUnit hs high → 0xD800 ≤ high ∧ high ≤ 0xDBFF →
      CodeUnit ls low → 0xDC00 ≤ low ∧ low ≤ 0xDFFF →
      c.toNat = 0x10000 + (high - 0xD800) * 0x400 + (low - 0xDC00) →
      Escapes ('u' :: (hs ++ '\\' :: 'u' :: ls)) c

/-- The inside of a string, and the characters that it stands for. -/
inductive Spelled : List Char → List Char → Prop
  | nil : Spelled [] []
  | plain {c : Char} {text cs : List Char} :
    IsPlain c → Spelled text cs → Spelled (c :: text) (c :: cs)
  | escaped {e text cs : List Char} {c : Char} :
    Escapes e c → Spelled text cs → Spelled ('\\' :: (e ++ text)) (c :: cs)

/-- The inside of a string that need not stand for a text. -/
inductive StringBody : List Char → Prop
  | nil : StringBody []
  | plain {c : Char} {text : List Char} : IsPlain c → StringBody text → StringBody (c :: text)
  | short {e c : Char} {text : List Char} :
    (e, c) ∈ shortEscapes → StringBody text → StringBody ('\\' :: e :: text)
  | code {ds text : List Char} {u : Nat} :
    CodeUnit ds u → StringBody text → StringBody ('\\' :: 'u' :: (ds ++ text))

/-- A string that stands for a text. -/
def Quotes (text : List Char) (s : String) : Prop :=
  ∃ body, text = '"' :: (body ++ ['"']) ∧ Spelled body s.toList

/-- A string. -/
def IsString (text : List Char) : Prop :=
  ∃ body, text = '"' :: (body ++ ['"']) ∧ StringBody body

theorem Spelled.append {text text' cs cs' : List Char} (h : Spelled text cs)
    (h' : Spelled text' cs') : Spelled (text ++ text') (cs ++ cs') := by
  induction h with
  | nil => exact h'
  | plain hc _ ih => exact .plain hc ih
  | escaped he _ ih =>
      rw [List.cons_append, List.append_assoc]
      exact .escaped he ih

theorem Spelled.length_le {text cs : List Char} (h : Spelled text cs) :
    cs.length ≤ text.length := by
  induction h with
  | nil => exact Nat.le_refl 0
  | plain _ _ ih => exact Nat.succ_le_succ ih
  | escaped _ _ ih =>
      simp only [List.length_cons, List.length_append]
      omega

theorem Spelled.stringBody {text cs : List Char} (h : Spelled text cs) : StringBody text := by
  induction h with
  | nil => exact .nil
  | plain hc _ ih => exact .plain hc ih
  | escaped he _ ih =>
      cases he with
      | short hshort => exact .short hshort ih
      | code hcode => exact .code hcode ih
      | pair hhigh _ hlow _ _ =>
          simp only [List.cons_append, List.append_assoc]
          exact .code hhigh (.code hlow ih)

theorem Quotes.isString {text : List Char} {s : String} (h : Quotes text s) : IsString text := by
  obtain ⟨body, htext, hbody⟩ := h
  exact ⟨body, htext, hbody.stringBody⟩

/-! ## What is written -/

theorem toNat_hexDigit {n : Nat} (h : n < 16) :
    (hexDigit n).toNat = Hexadecimal.lowerDigit n := by
  have hcode : Hexadecimal.lowerDigit n < 128 := by
    unfold Hexadecimal.lowerDigit
    split <;> omega
  have hvalid : (Hexadecimal.lowerDigit n).isValidChar := Or.inl (by omega)
  rw [hexDigit, Char.ofNat, dif_pos hvalid]
  rfl

/-- The code unit of a control character. -/
theorem codeUnit_control {n : Nat} (h : n < 256) :
    CodeUnit ['0', '0', hexDigit (n / 16), hexDigit (n % 16)] n := by
  have hzero : Hexadecimal.value? '0'.toNat = some 0 := rfl
  have hdigit {k : Nat} (hk : k < 16) : Hexadecimal.value? (hexDigit k).toNat = some k := by
    rw [toNat_hexDigit hk, Hexadecimal.value?_lowerDigit hk]
  have hunit := CodeUnit.digits hzero hzero (hdigit (k := n / 16) (by omega))
    (hdigit (k := n % 16) (by omega))
  have hcode : ((0 * 16 + 0) * 16 + n / 16) * 16 + n % 16 = n := by omega
  rwa [hcode] at hunit

/-- A character is written as it is, or as an escape of it. -/
theorem spelled_escapeChar (c : Char) : Spelled (escapeChar c) [c] := by
  have hself {n : Nat} (h : c.toNat = n) : c = Char.ofNat n := by rw [← h, Char.ofNat_toNat]
  have hescaped {e : List Char} (h : Escapes e c) : Spelled ('\\' :: e) [c] := by
    have := Spelled.escaped h .nil
    rwa [List.append_nil] at this
  unfold escapeChar
  split_ifs with hquote hslash hplain hb ht hn hf hr
  · exact hescaped (.short (by rw [hquote]; decide))
  · exact hescaped (.short (by rw [hslash]; decide))
  · exact .plain ⟨hquote, hslash, hplain⟩ .nil
  · exact hescaped (.short (by rw [hself hb]; decide))
  · exact hescaped (.short (by rw [hself ht]; decide))
  · exact hescaped (.short (by rw [hself hn]; decide))
  · exact hescaped (.short (by rw [hself hf]; decide))
  · exact hescaped (.short (by rw [hself hr]; decide))
  · exact hescaped (.code (codeUnit_control (by omega)))

theorem spelled_escaped (cs : List Char) : Spelled (cs.flatMap escapeChar) cs := by
  induction cs with
  | nil => exact .nil
  | cons c cs ih => exact (spelled_escapeChar c).append ih

/-- **What is written is a spelling.** -/
theorem quotes_string (s : String) : Quotes (string s.toList) s :=
  ⟨_, rfl, spelled_escaped s.toList⟩

/-! ## Reading -/

/-- Four digits are read as one code unit, whatever stands behind them. -/
theorem readUnit_codeUnit {ds : List Char} {u : Nat} (h : CodeUnit ds u) (rest : List Char) :
    readUnit (ds ++ rest) = .ok (u, rest) := by
  cases h with
  | @digits w x y z a b c d hw hx hy hz =>
      have hlength : ¬ byteLength ([w, x, y, z] ++ rest) < 4 := by
        have hpos := fun c : Char => c.utf8Size_pos
        have := hpos w
        have := hpos x
        have := hpos y
        have := hpos z
        simp only [byteLength, List.cons_append, List.map_cons, List.foldr_cons]
        omega
      rw [readUnit, if_neg hlength]
      simp only [List.cons_append, List.nil_append, List.take_succ_cons, List.take_zero,
        List.mapM_cons, List.mapM_nil, hw, hx, hy, hz, Option.pure_def, Option.bind_eq_bind,
        Option.bind_some, List.drop_succ_cons, List.drop_zero]

theorem shortEscape?_of_mem {e c : Char} (h : (e, c) ∈ shortEscapes) :
    e ≠ 'u' ∧ shortEscape? e = some c := by
  have hall : ∀ p ∈ shortEscapes, p.1 ≠ 'u' ∧ shortEscape? p.1 = some p.2 := by decide
  exact hall (e, c) h

/-- No character is half of a surrogate pair. -/
theorem toNat_noSurrogate (c : Char) : c.toNat < 0xD800 ∨ 0xDFFF < c.toNat := by
  rcases c.valid with h | h
  · exact .inl h
  · exact .inr h.1

theorem readEscape_escapes {e : List Char} {c : Char} (h : Escapes e c) (rest : List Char) :
    readEscape (e ++ rest) = .ok (c, rest) := by
  cases h with
  | short hshort =>
      obtain ⟨hu, hletter⟩ := shortEscape?_of_mem hshort
      show readEscape (_ :: rest) = _
      rw [readEscape, if_neg hu, hletter]
  | code hcode =>
      have hunit := readUnit_codeUnit hcode rest
      have hrange := toNat_noSurrogate c
      have hlow : ¬ (0xDC00 ≤ c.toNat ∧ c.toNat ≤ 0xDFFF) := by omega
      have hhigh : ¬ (0xD800 ≤ c.toNat ∧ c.toNat ≤ 0xDBFF) := by omega
      rw [List.cons_append, readEscape]
      simp only [if_true, hunit, bind, Except.bind, pure, Except.pure, if_neg hlow, if_neg hhigh,
        Char.ofNat_toNat]
  | @pair hs ls high low _ hhigh hhighRange hlow hlowRange hcode =>
      have hfirst := readUnit_codeUnit hhigh ('\\' :: 'u' :: (ls ++ rest))
      have hsecond := readUnit_codeUnit hlow rest
      have hnotLow : ¬ (0xDC00 ≤ high ∧ high ≤ 0xDFFF) := by omega
      simp only [List.cons_append, List.append_assoc]
      rw [readEscape]
      simp only [if_true, hfirst, bind, Except.bind, pure, Except.pure, if_neg hnotLow,
        if_pos hhighRange, readLowSurrogate, hsecond, if_pos hlowRange, ← hcode, Char.ofNat_toNat]

theorem readStringBody_spelled {text cs : List Char} (h : Spelled text cs) {fuel : Nat}
    (hfuel : cs.length < fuel) (rest : List Char) :
    readStringBody fuel (text ++ '"' :: rest) = .ok (cs, rest) := by
  obtain ⟨fuel, rfl⟩ : ∃ k, fuel = k + 1 := ⟨fuel - 1, by omega⟩
  induction h generalizing fuel with
  | nil => rfl
  | @plain c text cs hc _ ih =>
      rw [List.length_cons] at hfuel
      obtain ⟨fuel, rfl⟩ : ∃ k, fuel = k + 1 := ⟨fuel - 1, by omega⟩
      obtain ⟨hquote, hslash, hcontrol⟩ := hc
      rw [List.cons_append, readStringBody, if_neg hquote, if_neg hslash,
        if_neg (Nat.not_lt.mpr hcontrol), ih fuel (by omega)]
      rfl
  | @escaped e text cs c he _ ih =>
      rw [List.length_cons] at hfuel
      obtain ⟨fuel, rfl⟩ : ∃ k, fuel = k + 1 := ⟨fuel - 1, by omega⟩
      rw [List.cons_append, List.append_assoc, readStringBody, if_neg (by decide), if_pos rfl,
        readEscape_escapes he]
      show (readStringBody (fuel + 1) (text ++ '"' :: rest) >>= fun r => pure (c :: r.1, r.2)) = _
      rw [ih fuel (by omega)]
      rfl

/-- **Every spelling of a text is read as that text.** -/
theorem readStringRest_spelled {body : List Char} {s : String} (h : Spelled body s.toList)
    (rest : List Char) : readStringRest (body ++ '"' :: rest) = .ok (s, rest) := by
  have hlength := h.length_le
  have hfuel : s.toList.length < (body ++ '"' :: rest).length + 1 := by
    rw [List.length_append]
    omega
  rw [readStringRest, readStringBody_spelled h hfuel]
  show Except.ok (String.ofList s.toList, rest) = _
  rw [String.ofList_toList]

theorem Quotes.read {body : List Char} {s : String} (h : Quotes ('"' :: body) s) :
    readStringRest body = .ok (s, []) := by
  obtain ⟨inner, hbody, hspelled⟩ := h
  injection hbody with _ hbody
  rw [hbody]
  exact readStringRest_spelled hspelled []

/-- A string spells one text at most. -/
theorem Quotes.unique {text : List Char} {s s' : String} (h : Quotes text s) (h' : Quotes text s') :
    s = s' := by
  obtain ⟨body, rfl, -⟩ := id h
  injection h.read.symm.trans h'.read with hpair
  exact congrArg Prod.fst hpair

/-- **A string is read back**, whatever text it holds. -/
theorem readStringRest_string (s : String) (rest : List Char) :
    readStringRest (s.toList.flatMap escapeChar ++ '"' :: rest) = .ok (s, rest) :=
  readStringRest_spelled (spelled_escaped s.toList) rest

/-! ## Skipping -/

theorem skipStringBody_body {body : List Char} (h : StringBody body) {fuel : Nat}
    (hfuel : body.length < fuel) (rest : List Char) :
    skipStringBody fuel (body ++ '"' :: rest) = .ok rest := by
  obtain ⟨fuel, rfl⟩ : ∃ k, fuel = k + 1 := ⟨fuel - 1, by omega⟩
  induction h generalizing fuel with
  | nil => rfl
  | plain hc _ ih =>
      rw [List.length_cons] at hfuel
      obtain ⟨fuel, rfl⟩ : ∃ k, fuel = k + 1 := ⟨fuel - 1, by omega⟩
      obtain ⟨hquote, hslash, hcontrol⟩ := hc
      rw [List.cons_append, skipStringBody.eq_def]
      simp only [if_neg hquote, if_neg hslash, if_neg (Nat.not_lt.mpr hcontrol)]
      exact ih fuel (by omega)
  | short hshort _ ih =>
      rw [List.length_cons, List.length_cons] at hfuel
      obtain ⟨fuel, rfl⟩ : ∃ k, fuel = k + 1 := ⟨fuel - 1, by omega⟩
      obtain ⟨hu, hletter⟩ := shortEscape?_of_mem hshort
      rw [List.cons_append, List.cons_append, skipStringBody, if_neg (by decide), if_pos rfl]
      simp only [if_neg hu, hletter, Option.isSome_some, if_true]
      exact ih fuel (by omega)
  | @code ds text u hcode _ ih =>
      rw [List.length_cons, List.length_cons, List.length_append] at hfuel
      obtain ⟨fuel, rfl⟩ : ∃ k, fuel = k + 1 := ⟨fuel - 1, by omega⟩
      have hunit := readUnit_codeUnit hcode (text ++ '"' :: rest)
      rw [List.cons_append, List.cons_append, List.append_assoc, skipStringBody,
        if_neg (by decide), if_pos rfl]
      simp only [if_true, hunit, bind, Except.bind]
      exact ih fuel (by omega)

/-- **Every string is skipped.** -/
theorem skipStringRest_body {body : List Char} (h : StringBody body) (rest : List Char) :
    skipStringRest (body ++ '"' :: rest) = .ok rest :=
  skipStringBody_body h (by rw [List.length_append]; omega) rest

end RpcConformance.Json
