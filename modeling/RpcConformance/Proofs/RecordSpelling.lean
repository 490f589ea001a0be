import RpcConformance.Proofs.JsonGrammar

/-!
# Records that are read by their content

A record may be written in many ways: its fields stand in any order, fields with a default may be
left out, and members that the record does not know may stand anywhere, with any values.
`RecordText` is the set of these texts.  A reader that takes one member at a time comes to the same
state on all of them, because its state depends on the set of the fields that it has seen and not
on their order.

## Main results

* `RecordText.spells` — every text of a record is read as that record.
* `recordText_compact` — the form without white space is one of them.
-/

namespace RpcConformance.Json

/-! ## Texts -/

/-- A field of a record: its name, the texts of its value, and whether it may be left out. -/
structure RecordField where
  key : String
  Writes : List Char → Prop
  Optional : Prop

/-- A name that spells a text, so one without half of a surrogate pair. -/
def IsLegible (name : List Char) : Prop := ∃ s, Quotes name s

section Texts

variable (Admitted : List Char → Prop) (fields : List RecordField)

/-- A name that may stand in a record without being that of a field. -/
def IsUnknown (name : List Char) : Prop := Admitted name ∧ ∀ f ∈ fields, ¬ Quotes name f.key

/-- The text behind the brace of a record, and the fields that it has. -/
inductive Members : Bool → List Char → List String → Prop
  | done {first : Bool} {w : List Char} : Gap w → Members first (w ++ ['\x7d']) []
  | field {first : Bool} {w name g g' text rest : List Char} {f : RecordField}
    {keys : List String} :
    Separator first w → f ∈ fields → Quotes name f.key → Gap g → Gap g' → f.Writes text →
      Members false rest keys →
      Members first (w ++ (name ++ (g ++ ':' :: (g' ++ (text ++ rest))))) (f.key :: keys)
  | further {first : Bool} {w name g g' text rest : List Char} {keys : List String} :
    Separator first w → IsUnknown Admitted fields name → Gap g → Gap g' → IsValue text →
      Members false rest keys →
      Members first (w ++ (name ++ (g ++ ':' :: (g' ++ (text ++ rest))))) keys

/-- The text of a record: no field stands there twice, and none is left out that may not be. -/
def RecordText (text : List Char) : Prop :=
  ∃ body keys, text = '\x7b' :: body ∧ Members Admitted fields true body keys ∧ keys.Nodup ∧
    ∀ f ∈ fields, f.key ∈ keys ∨ f.Optional

end Texts

/-- A legible name is unknown if it spells another text than every field. -/
theorem isUnknown_legible_iff {fields : List RecordField} {name : List Char} :
    IsUnknown IsLegible fields name ↔ ∃ s, Quotes name s ∧ ∀ f ∈ fields, f.key ≠ s := by
  constructor
  · rintro ⟨⟨s, hname⟩, hother⟩
    exact ⟨s, hname, fun f hf heq => hother f hf (heq ▸ hname)⟩
  · rintro ⟨s, hname, hother⟩
    exact ⟨⟨s, hname⟩, fun f hf hkey => hother f hf (hkey.unique hname)⟩

section Compact

variable {Admitted : List Char → Prop} {fields : List RecordField}

theorem Members.ends {first : Bool} {text : List Char} {keys : List String}
    (h : Members Admitted fields first text keys) : ∃ inner, text = inner ++ ['\x7d'] := by
  induction h with
  | done _ => exact ⟨_, rfl⟩
  | @field _ w name g g' text _ _ _ _ _ _ _ _ _ _ ih
  | @further _ w name g g' text _ _ _ _ _ _ _ _ ih =>
      obtain ⟨inner, rfl⟩ := ih
      refine ⟨w ++ (name ++ (g ++ ':' :: (g' ++ (text ++ inner)))), ?_⟩
      simp only [List.append_assoc, List.cons_append]

/-- A record stands between braces. -/
theorem RecordText.braces {text : List Char} (h : RecordText Admitted fields text) :
    ∃ inner, text = '\x7b' :: (inner ++ ['\x7d']) := by
  obtain ⟨body, keys, rfl, hmembers, -⟩ := h
  obtain ⟨inner, rfl⟩ := hmembers.ends
  exact ⟨inner, rfl⟩

/-- The member is a field in the form without white space. -/
def WritesField (fields : List RecordField) (m : String × Json) : Prop :=
  ∃ f ∈ fields, f.key = m.1 ∧ f.Writes m.2.compact

/-- The form without white space, in front or behind another member. -/
theorem members_compact_cons {m : String × Json} {members : List (String × Json)}
    (h : ∀ n ∈ m :: members, WritesField fields n) {first : Bool} {w : List Char}
    (hw : Separator first w) :
    Members Admitted fields first (w ++ (compactMembers (m :: members) ++ ['\x7d']))
      ((m :: members).map Prod.fst) := by
  induction members generalizing m first w with
  | nil =>
      obtain ⟨key, v⟩ := m
      obtain ⟨f, hf, hkey, hwrites⟩ := h _ List.mem_cons_self
      obtain rfl : f.key = key := hkey
      have hlast : Members Admitted fields first _ [f.key] :=
        .field hw hf (quotes_string f.key) Gap.nil Gap.nil hwrites (.done Gap.nil)
      simp only [List.nil_append] at hlast
      simp only [compactMembers, List.append_assoc, List.cons_append]
      exact hlast
  | cons n members ih =>
      obtain ⟨key, v⟩ := m
      obtain ⟨f, hf, hkey, hwrites⟩ := h _ List.mem_cons_self
      obtain rfl : f.key = key := hkey
      have htail := ih (fun x hx => h x (List.mem_cons_of_mem _ hx)) (.comma Gap.nil Gap.nil)
      have hall := Members.field hw hf (quotes_string f.key) Gap.nil Gap.nil hwrites htail
      simp only [List.nil_append, List.cons_append] at hall
      simp only [compactMembers, List.append_assoc, List.cons_append]
      exact hall

/-- **The form without white space is a text of the record.** -/
theorem recordText_compact {members : List (String × Json)}
    (h : ∀ m ∈ members, WritesField fields m)
    (hkeys : (members.map Prod.fst).Nodup)
    (hall : ∀ f ∈ fields, f.key ∈ members.map Prod.fst ∨ f.Optional) :
    RecordText Admitted fields (Json.obj members).compact := by
  refine ⟨_, members.map Prod.fst, rfl, ?_, hkeys, hall⟩
  cases members with
  | nil => exact .done Gap.nil
  | cons m members => exact members_compact_cons h (.start Gap.nil)

end Compact

section Reading

variable {α σ : Type} {member : σ → String → Reader σ} {state : List String → σ}
  {fields : List RecordField}

/-- A member is a field that is not set yet, and setting it leads from one state to another. -/
def SetsField (member : σ → String → Reader σ) (s : σ) (key : String) (text : List Char) (s' : σ) :
    Prop :=
  ∃ (α : Type) (value : Reader α) (set : α → σ) (a : α),
    member s key = readField key none value set ∧ Spells value text a ∧ set a = s'

theorem SetsField.intro {s s' : σ} {key : String} {current : Option α} {value : Reader α}
    {set : α → σ} {text : List Char} {a : α}
    (hmember : member s key = readField key current value set) (hunset : current = none)
    (hvalue : Spells value text a) (hset : set a = s') : SetsField member s key text s' :=
  ⟨α, value, set, a, hunset ▸ hmember, hvalue, hset⟩

/-- A reader takes the fields of a record one by one and skips everything else.  Its state is told
by the names that it has seen. -/
structure ReadsFields (member : σ → String → Reader σ) (state : List String → σ)
    (fields : List RecordField) : Prop where
  field {f : RecordField} {seen : List String} {text : List Char} :
    f ∈ fields → f.key ∉ seen → f.Writes text →
      SetsField member (state seen) f.key text (state (f.key :: seen))
  further (s : σ) {key : String} : (∀ f ∈ fields, f.key ≠ key) → member s key = skipFieldOf s

theorem Members.endsNumber {Admitted : List Char → Prop} {text : List Char} {keys : List String}
    (h : Members Admitted fields false text keys) (rest : List Char) :
    EndsNumber (text ++ rest) := by
  cases h with
  | done hw =>
      rw [List.append_assoc]
      exact endsNumber_gap_cons hw (.inr (.inr rfl)) _
  | field hw _ _ _ _ _ _ | further hw _ _ _ _ _ =>
      rw [List.append_assoc]
      exact hw.endsNumber _

/-- The members are read into the state of all the fields among them. -/
theorem Members.read (hreads : ReadsFields member state fields) {first : Bool} {text : List Char}
    {keys : List String} (h : Members IsLegible fields first text keys) {seen : List String}
    (hkeys : (keys.reverse ++ seen).Nodup) {fuel : Nat} (hfuel : text.length ≤ fuel)
    (rest : List Char) :
    readMembers member fuel first (state seen) (text ++ rest) =
      .ok (state (keys.reverse ++ seen), rest) := by
  induction h generalizing seen fuel with
  | done hw =>
      rw [List.length_append, List.length_singleton] at hfuel
      obtain ⟨fuel, rfl⟩ : ∃ k, fuel = k + 1 := ⟨fuel - 1, by omega⟩
      rw [List.append_assoc]
      exact readMembers_end fuel _ _ hw rest
  | @field first w name g g' text tail f keys hw hf hname hg hg' hwrites htail ih =>
      simp only [List.length_append, List.length_cons] at hfuel
      obtain ⟨fuel, rfl⟩ : ∃ k, fuel = k + 1 := ⟨fuel - 1, by omega⟩
      -- The field is now among those that have been seen, in front of the earlier ones.
      rw [List.reverse_cons, List.append_assoc _ [f.key], List.singleton_append] at hkeys ⊢
      have hnew : f.key ∉ seen :=
        (List.nodup_cons.mp (List.nodup_append.mp hkeys).2.1).1
      obtain ⟨α, value, set, a, hmember, hvalue, hset⟩ := hreads.field hf hnew hwrites
      have htaken : readField f.key none value set _ = _ :=
        readField_spelled hvalue hg hg' (htail.endsNumber rest)
      rw [← hmember, hset] at htaken
      have hstep := readMembers_member fuel hw hname htaken
      simp only [List.append_assoc, List.cons_append]
      rw [hstep]
      exact ih hkeys (by omega)
  | @further first w name g g' text tail keys hw hname hg hg' hvalue htail ih =>
      simp only [List.length_append, List.length_cons] at hfuel
      obtain ⟨fuel, rfl⟩ : ∃ k, fuel = k + 1 := ⟨fuel - 1, by omega⟩
      obtain ⟨key, hkey, hother⟩ := isUnknown_legible_iff.mp hname
      have hskip := skipFieldOf_spelled (state seen) hg hg' hvalue (htail.endsNumber rest)
      rw [← hreads.further (state seen) hother] at hskip
      have hstep := readMembers_member fuel hw hkey hskip
      simp only [List.append_assoc, List.cons_append]
      rw [hstep]
      exact ih hkeys (by omega)

/-- **Every text of a record is read as that record**, if its reader makes it from any state that
has all the fields which may not be left out. -/
theorem RecordText.spells {wanted : String} {list read : Reader α} {a : α} {text : List Char}
    (hreads : ReadsFields member state fields)
    (hread : ∀ keys cs rest, (∀ f ∈ fields, f.key ∈ keys ∨ f.Optional) →
      readMembers member (cs.length + 1) true (state []) cs = .ok (state keys, rest) →
      read cs = .ok (a, rest))
    (h : RecordText IsLegible fields text) : Spells (readRecord wanted list read) text a := by
  obtain ⟨body, keys, rfl, hmembers, hkeys, hall⟩ := h
  refine ⟨⟨'\x7b', body, rfl, by decide, by decide⟩, ?_⟩
  intro cs rest hcs _
  have hnodup : (keys.reverse ++ []).Nodup := by
    rw [List.append_nil]
    exact (List.reverse_perm keys).nodup_iff.mpr hkeys
  have hfuel : body.length ≤ (body ++ rest).length + 1 := by
    rw [List.length_append]
    omega
  have hbody := hmembers.read hreads hnodup hfuel rest
  have hpresent : ∀ f ∈ fields, f.key ∈ keys.reverse ++ [] ∨ f.Optional := by
    simpa only [List.append_nil, List.mem_reverse] using hall
  rw [readRecord, hcs]
  exact hread _ _ _ hpresent hbody

end Reading

end RpcConformance.Json
