import RpcConformance.Proofs.EchoValues
import RpcConformance.Proofs.LossyText
import RpcConformance.Proofs.ToldErrors
import RpcConformance.Proofs.WireFields
import RpcConformance.Scenario.MetadataEcho

/-!
# What the check of echoed values checks

The check sorts what came back and what was sent, and compares the sorted lists.  Both orders are
total and tell different values apart, so sorted lists are equal exactly for lists that have the
same values equally often.  Before that the leading values are read with replacements and the
trailing values that do not decode are left out, each with an error.  Neither hides a difference:
an accepted text is read from its own bytes only, and an error stands for each value left out.

## Main results

* `Sorting.mergeSort_eq_iff` — equal sorted lists.
* `Scenarios.EchoSample.check_tells` — the errors that the check reports.
* `Scenarios.EchoSample.complaints_eq_nil_iff` — when there are none.
* `Scenarios.EchoSample.echo_check_compares_multisets` — the whole of it, with what follows for
  values in another order and for values that are missing, added or altered.
-/

namespace RpcConformance

/-! ## Sorting -/

namespace Sorting

variable {α : Type} {le : α → α → Bool}

/-- The order is total, and tells different values apart. -/
structure Linear (le : α → α → Bool) : Prop where
  trans : ∀ a b c, le a b = true → le b c = true → le a c = true
  total : ∀ a b, (le a b || le b a) = true
  antisymm : ∀ a b, le a b = true → le b a = true → a = b

/-- **Sorted lists are equal** exactly where the lists are permutations of each other. -/
theorem mergeSort_eq_iff (h : Linear le) (l₁ l₂ : List α) :
    l₁.mergeSort le = l₂.mergeSort le ↔ l₁.Perm l₂ := by
  have hperm₁ := List.mergeSort_perm l₁ le
  have hperm₂ := List.mergeSort_perm l₂ le
  constructor
  · intro heq
    rw [heq] at hperm₁
    exact hperm₁.symm.trans hperm₂
  · intro hperm
    apply List.Perm.eq_of_pairwise fun a b _ _ => h.antisymm a b
    · exact List.pairwise_mergeSort h.trans h.total l₁
    · exact List.pairwise_mergeSort h.trans h.total l₂
    · exact hperm₁.trans (hperm.trans hperm₂.symm)

end Sorting

theorem Utf8.encode_injective {s t : String} (h : Utf8.encode s = Utf8.encode t) : s = t := by
  have hdecode := congrArg Utf8.decode? h
  rw [Utf8.decode?_encode, Utf8.decode?_encode] at hdecode
  exact Option.some.inj hdecode

namespace Scenarios.EchoSample

open ScenarioM

theorem bytesLe_cons_iff {x y : UInt8} {a b : List UInt8} :
    bytesLe (x :: a) (y :: b) = true ↔ x.toNat < y.toNat ∨ (x = y ∧ bytesLe a b = true) := by
  by_cases h : x = y
  · simp [bytesLe, h]
  · simp [bytesLe, h, UInt8.lt_iff_toNat_lt]

theorem bytesLe_trans : ∀ a b c : List UInt8, bytesLe a b = true → bytesLe b c = true →
    bytesLe a c = true := by
  intro a
  induction a with
  | nil => intros; rfl
  | cons x a ih =>
      intro b c hab hbc
      cases b with
      | nil => cases hab
      | cons y b =>
          cases c with
          | nil => cases hbc
          | cons z c =>
              rw [bytesLe_cons_iff] at hab hbc ⊢
              rcases hab with hab | ⟨rfl, hab⟩ <;> rcases hbc with hbc | ⟨rfl, hbc⟩
              · exact Or.inl (by omega)
              · exact Or.inl hab
              · exact Or.inl hbc
              · exact Or.inr ⟨rfl, ih b c hab hbc⟩

theorem bytesLe_total : ∀ a b : List UInt8, (bytesLe a b || bytesLe b a) = true := by
  intro a
  induction a with
  | nil => intros; rfl
  | cons x a ih =>
      intro b
      cases b with
      | nil => rfl
      | cons y b =>
          have hrest := ih b
          simp only [Bool.or_eq_true, bytesLe_cons_iff] at hrest ⊢
          rcases Nat.lt_trichotomy x.toNat y.toNat with h | h | h
          · exact Or.inl (Or.inl h)
          · have hxy : x = y := UInt8.toNat_inj.mp h
            exact hrest.imp (fun hab => Or.inr ⟨hxy, hab⟩) fun hba => Or.inr ⟨hxy.symm, hba⟩
          · exact Or.inr (Or.inl h)

theorem bytesLe_antisymm : ∀ a b : List UInt8, bytesLe a b = true → bytesLe b a = true →
    a = b := by
  intro a
  induction a with
  | nil =>
      intro b hab hba
      cases b with
      | nil => rfl
      | cons y b => cases hba
  | cons x a ih =>
      intro b hab hba
      cases b with
      | nil => cases hab
      | cons y b =>
          rw [bytesLe_cons_iff] at hab hba
          have hxy : x = y := by
            rw [← UInt8.toNat_inj] at hab hba ⊢
            omega
          subst hxy
          simp only [Nat.lt_irrefl, true_and, false_or] at hab hba
          rw [ih b hab hba]

theorem linear_bytesLe : Sorting.Linear bytesLe :=
  ⟨bytesLe_trans, bytesLe_total, bytesLe_antisymm⟩

theorem linear_textLe : Sorting.Linear textLe := by
  constructor
  · intro a b c
    exact linear_bytesLe.trans _ _ _
  · intro a b
    exact linear_bytesLe.total _ _
  · intro a b hab hba
    exact Utf8.encode_injective (linear_bytesLe.antisymm _ _ hab hba)

/-! ## The errors -/

/-- The errors for trailing values that do not decode. -/
def undecoded (values : List HeaderValue) : List String :=
  (values.filter (·.binary?.isNone)).map fun _ => undecodable

/-- The errors of the check, in order. -/
def complaints (v : EchoSample) (headers trailers : Metadata) : List String :=
  let leading := (headers.getAll Agreed.leadingKey).map HeaderValue.lossy
  let trailing := (trailers.getAll Agreed.trailingKey).filterMap HeaderValue.binary?
  undecoded (trailers.getAll Agreed.trailingKey)
    ++ (if leading.mergeSort textLe = v.leading.mergeSort textLe then []
      else [mismatchMessage ("values of " ++ Agreed.leadingKey)
        (showTexts (leading.mergeSort textLe)) (showTexts (v.leading.mergeSort textLe))])
    ++ if trailing.mergeSort bytesLe = v.trailing.mergeSort bytesLe then []
      else [mismatchMessage ("values of " ++ Agreed.trailingKey)
        (showBytes (trailing.mergeSort bytesLe)) (showBytes (v.trailing.mergeSort bytesLe))]

section Tells

variable {ρ : Type} [Reporter ρ]

theorem decodeTrailing_tells (values : List HeaderValue) :
    Tells (decodeTrailing values : ScenarioM ρ _) (values.filterMap HeaderValue.binary?)
      (undecoded values) := by
  induction values with
  | nil => exact tells_pure []
  | cons value rest ih =>
      cases hvalue : value.binary? with
      | some bytes =>
          have hrest := ih.bind (f := fun decoded => pure (bytes :: decoded)) (tells_pure _)
          simpa [decodeTrailing, hvalue, undecoded] using hrest
      | none =>
          have hrest := (tells_error undecodable).bind (f := fun _ => decodeTrailing rest) ih
          simpa [decodeTrailing, hvalue, undecoded] using hrest

/-- **The check reports its errors**, whatever the reporter, and does nothing else. -/
theorem check_tells (v : EchoSample) (headers trailers : Metadata) :
    Tells (v.check headers trailers : ScenarioM ρ Unit) () (v.complaints headers trailers) := by
  rw [complaints, List.append_assoc]
  exact (decodeTrailing_tells _).bind ((tells_checkEq _ _ _ _).bind (tells_checkEq _ _ _ _))

end Tells

/-- **The order of values makes no difference**, and neither do values under other keys. -/
theorem complaints_of_perm (v : EchoSample) {headers headers' trailers trailers' : Metadata}
    (hheaders : (headers.getAll Agreed.leadingKey).Perm (headers'.getAll Agreed.leadingKey))
    (htrailers : (trailers.getAll Agreed.trailingKey).Perm (trailers'.getAll Agreed.trailingKey)) :
    v.complaints headers trailers = v.complaints headers' trailers' := by
  have hleading := (Sorting.mergeSort_eq_iff linear_textLe _ _).mpr
    (hheaders.map HeaderValue.lossy)
  have htrailing := (Sorting.mergeSort_eq_iff linear_bytesLe _ _).mpr
    (htrailers.filterMap HeaderValue.binary?)
  have hundecoded : undecoded (trailers.getAll Agreed.trailingKey) =
      undecoded (trailers'.getAll Agreed.trailingKey) := by
    simp only [undecoded, List.map_const', (htrailers.filter _).length_eq]
  simp only [complaints, hleading, htrailing, hundecoded]

/-! ## What came back -/

/-- What was sent has come back, every value as often as it was sent, in any order. -/
structure Echoed (v : EchoSample) (headers trailers : Metadata) : Prop where
  decodes : ∀ value ∈ trailers.getAll Agreed.trailingKey, value.binary? ≠ none
  trailing : ((trailers.getAll Agreed.trailingKey).filterMap HeaderValue.binary?).Perm v.trailing
  leading : ((headers.getAll Agreed.leadingKey).map (·.bytes)).Perm (v.leading.map Utf8.encode)

/-- Accepted texts are read with replacements from their own bytes only, so it makes no difference
whether texts are compared or bytes. -/
theorem lossy_perm_iff {texts : List String} (h : ∀ s ∈ texts, ∀ c ∈ s.toList, c.toNat < 128)
    (values : List HeaderValue) :
    (values.map HeaderValue.lossy).Perm texts ↔
      (values.map (·.bytes)).Perm (texts.map Utf8.encode) := by
  constructor
  · intro hperm
    have hbytes : values.map (·.bytes) = (values.map HeaderValue.lossy).map Utf8.encode := by
      rw [List.map_map]
      apply List.map_congr_left
      intro value hvalue
      have htext := hperm.subset (List.mem_map_of_mem hvalue)
      exact (Utf8.lossy_eq_iff (h _ htext) value.bytes).mp rfl
    rw [hbytes]
    exact hperm.map Utf8.encode
  · intro hperm
    have htexts : (texts.map Utf8.encode).map Utf8.lossy = texts := by
      rw [List.map_map]
      conv => rhs; rw [← List.map_id texts]
      apply List.map_congr_left
      intro s hs
      exact (Utf8.lossy_eq_iff (h s hs) _).mpr rfl
    have hlossy := hperm.map Utf8.lossy
    rw [htexts, List.map_map] at hlossy
    exact hlossy

/-- **The check reports no error** exactly where all that was sent has come back. -/
theorem complaints_eq_nil_iff {v : EchoSample}
    (h : ∀ s ∈ v.leading, ∀ c ∈ s.toList, c.toNat < 128) (headers trailers : Metadata) :
    v.complaints headers trailers = [] ↔ v.Echoed headers trailers := by
  have hdecodes : undecoded (trailers.getAll Agreed.trailingKey) = [] ↔
      ∀ value ∈ trailers.getAll Agreed.trailingKey, value.binary? ≠ none := by
    simp [undecoded]
  simp only [complaints, List.append_eq_nil_iff, ite_eq_left_iff, List.cons_ne_nil, imp_false,
    not_not, Sorting.mergeSort_eq_iff linear_textLe, Sorting.mergeSort_eq_iff linear_bytesLe]
  rw [hdecodes, lossy_perm_iff h]
  constructor
  · rintro ⟨⟨hall, hleading⟩, htrailing⟩
    exact ⟨hall, htrailing, hleading⟩
  · rintro ⟨hall, htrailing, hleading⟩
    exact ⟨⟨hall, hleading⟩, htrailing⟩

/-! ## What is wrong -/

/-- One value is missing, there is one more, which may have been there before, or one value is
another one. -/
inductive Tampered {α : Type} : List α → List α → Prop
  | missing (before : List α) (a : α) (after : List α) :
      Tampered (before ++ a :: after) (before ++ after)
  | extra (before : List α) (a : α) (after : List α) :
      Tampered (before ++ after) (before ++ a :: after)
  | altered (before : List α) {a b : α} (after : List α) (h : a ≠ b) :
      Tampered (before ++ a :: after) (before ++ b :: after)

theorem Tampered.not_perm {α : Type} {l l' : List α} (h : Tampered l l') : ¬l.Perm l' := by
  intro hperm
  have hlength := hperm.length_eq
  cases h with
  | missing before a after => simp at hlength
  | extra before a after => simp at hlength
  | @altered before a b after hne =>
      have hrest : ([a] ++ after).Perm ([b] ++ after) := (List.perm_append_left_iff before).mp hperm
      have hone := (List.perm_append_right_iff after).mp hrest
      exact hne (List.singleton_perm_singleton.mp hone)

/-- What is read of the trailing values; one that does not decode is read as none. -/
def trailingRead (trailers : Metadata) : List (Option (List UInt8)) :=
  (trailers.getAll Agreed.trailingKey).map HeaderValue.binary?

/-- What is read of the leading values. -/
def leadingRead (headers : Metadata) : List (List UInt8) :=
  (headers.getAll Agreed.leadingKey).map (·.bytes)

theorem map_some_filterMap {values : List HeaderValue} (h : ∀ v ∈ values, v.binary? ≠ none) :
    (values.filterMap HeaderValue.binary?).map some = values.map HeaderValue.binary? := by
  induction values with
  | nil => rfl
  | cons value rest ih =>
      obtain ⟨bytes, hbytes⟩ := Option.ne_none_iff_exists'.mp (h value List.mem_cons_self)
      have hrest := ih fun v hv => h v (List.mem_cons_of_mem value hv)
      rw [List.filterMap_cons_some hbytes, List.map_cons, List.map_cons, hrest, hbytes]

theorem Echoed.trailingRead_perm {v : EchoSample} {headers trailers : Metadata}
    (h : v.Echoed headers trailers) : (trailingRead trailers).Perm (v.trailing.map some) := by
  rw [trailingRead, ← map_some_filterMap h.decodes]
  exact h.trailing.map some

/-- **What has been tampered with has not come back.** -/
theorem Echoed.not_tampered {v : EchoSample} {headers headers' trailers trailers' : Metadata}
    (h : v.Echoed headers trailers) (h' : v.Echoed headers' trailers') :
    ¬(Tampered (leadingRead headers) (leadingRead headers') ∨
      Tampered (trailingRead trailers) (trailingRead trailers')) := by
  rintro (htampered | htampered)
  · exact htampered.not_perm (h.leading.trans h'.leading.symm)
  · exact htampered.not_perm (h.trailingRead_perm.trans h'.trailingRead_perm.symm)

/-- **The check compares multisets.**  Where the leading values of the sample may travel, it reports
no error exactly where all values have come back, each as often as it was sent.  What it reports
depends neither on the order of the values of a key nor on other keys, and it reports an error
where of an answer with all values one is missing, added or altered, or does not decode. -/
theorem echo_check_compares_multisets (v : EchoSample)
    (h : ∀ s ∈ v.leading, ∃ o o', CallOptions.withAscii o Agreed.leadingKey s = .ok o')
    (headers trailers : Metadata) :
    (∀ (ρ : Type) [Reporter ρ],
      Tells (v.check headers trailers : ScenarioM ρ Unit) () (v.complaints headers trailers)) ∧
      (v.complaints headers trailers = [] ↔ v.Echoed headers trailers) ∧
      ∀ headers' trailers',
        ((headers.getAll Agreed.leadingKey).Perm (headers'.getAll Agreed.leadingKey) →
          (trailers.getAll Agreed.trailingKey).Perm (trailers'.getAll Agreed.trailingKey) →
          v.complaints headers trailers = v.complaints headers' trailers') ∧
        (v.complaints headers trailers = [] →
          Tampered (leadingRead headers) (leadingRead headers') ∨
            Tampered (trailingRead trailers) (trailingRead trailers') →
          v.complaints headers' trailers' ≠ []) := by
  have hascii : ∀ s ∈ v.leading, ∀ c ∈ s.toList, c.toNat < 128 := by
    intro s hs
    obtain ⟨o, o', ho⟩ := h s hs
    exact HeaderValue.ascii_of_ofAscii (CallOptions.withAscii_eq_ok ho).1
  refine ⟨fun ρ _ => check_tells v headers trailers, complaints_eq_nil_iff hascii headers trailers,
    fun headers' trailers' => ⟨complaints_of_perm v, ?_⟩⟩
  intro hnone htampered hnone'
  have hechoed := (complaints_eq_nil_iff hascii headers trailers).mp hnone
  have hechoed' := (complaints_eq_nil_iff hascii headers' trailers').mp hnone'
  exact hechoed.not_tampered hechoed' htampered

namespace CheckSample

def sample : EchoSample := ⟨["one", "two"], [[1, 2], [3]]⟩

/-- Headers with the values of the sample in another order, and a value under another key. -/
def headers : Metadata :=
  ⟨[(Agreed.leadingKey, .ofText "two"), ("server", .ofText "one"),
    (Agreed.leadingKey, .ofText "one")]⟩

def trailers : Metadata :=
  ⟨[(Agreed.trailingKey, .ofBinary [3]), (Agreed.trailingKey, .ofBinary [1, 2])]⟩

/-- Headers in which one value is missing. -/
def fewHeaders : Metadata := ⟨[(Agreed.leadingKey, .ofText "two")]⟩

theorem travels (s : String) (hs : s ∈ sample.leading) :
    ∃ o o', CallOptions.withAscii o Agreed.leadingKey s = .ok o' := by
  refine ⟨⟨.empty, ⟨none, 0⟩⟩, ?_⟩
  simp only [sample, List.mem_cons, List.not_mem_nil, or_false] at hs
  rcases hs with rfl | rfl
  · exact ⟨_, rfl⟩
  · exact ⟨_, rfl⟩

end CheckSample

open CheckSample in
theorem sampleEchoes_checked :
    (∀ s ∈ sample.leading, ∃ o o', CallOptions.withAscii o Agreed.leadingKey s = .ok o') ∧
      sample.complaints headers trailers = [] ∧ sample.complaints fewHeaders trailers ≠ [] := by
  obtain ⟨-, hechoed, htampered⟩ := echo_check_compares_multisets sample travels headers trailers
  have hnone := hechoed.mpr ⟨by decide, by decide, by decide⟩
  have hmissing : Tampered (leadingRead headers) (leadingRead fewHeaders) :=
    .missing [Utf8.encode "two"] (Utf8.encode "one") []
  exact ⟨travels, hnone, (htampered fewHeaders trailers).2 hnone (Or.inl hmissing)⟩

end Scenarios.EchoSample

end RpcConformance
