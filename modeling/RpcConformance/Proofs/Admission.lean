import RpcConformance.Service.OutputStream

/-!
# Which streaming requests are admitted

A request is refused before anything is sent when it could not be answered in full.  The rule
is stated apart from the check: `RequestFault` names the one status that refuses a request,
the payload type first, then the parameters in order, and of each its size before its
interval.  `admitRequest_error_iff` says that the check follows it.  What is answered and what
is asked for in the end are read off the request in the same way.
-/

namespace RpcConformance

/-- The payload that a parameter asks for: zero bytes of the only type there is. -/
def ResponseParameters.payload (p : ResponseParameters) : Payload :=
  ⟨Payload.compressable, List.replicate p.size.toNat 0⟩

/-- A parameter that can be answered. -/
def ResponseParameters.Answerable (p : ResponseParameters) : Prop :=
  0 ≤ p.size ∧ 0 ≤ p.intervalMicros

/-- A request that can be answered in full. -/
def Answerable (kind : Int) (parameters : List ResponseParameters) : Prop :=
  kind = Payload.compressable ∧ ∀ p ∈ parameters, p.Answerable

/-- How a single parameter is refused: its size is looked at before its interval. -/
inductive ParameterFault (p : ResponseParameters) : Status → Prop
  | size (h : p.size < 0) : ParameterFault p
      (.invalidArgument ("requested a negative payload size: " ++ Decimal.signedText p.size))
  | interval (hsize : 0 ≤ p.size) (h : p.intervalMicros < 0) : ParameterFault p
      (.invalidArgument
        ("requested a negative interval: " ++ Decimal.signedText p.intervalMicros))

/-- How a request is refused: the payload type is looked at first, and then the first
parameter that cannot be answered. -/
inductive RequestFault (kind : Int) (parameters : List ResponseParameters) : Status → Prop
  | kind (h : kind ≠ Payload.compressable) : RequestFault kind parameters
      (.invalidArgument ("unsupported payload type: " ++ Decimal.signedText kind))
  | parameter {before after : List ResponseParameters} {p : ResponseParameters} {st : Status}
      (hkind : kind = Payload.compressable) (hsplit : parameters = before ++ p :: after)
      (hbefore : ∀ q ∈ before, q.Answerable) (hfault : ParameterFault p st) :
      RequestFault kind parameters st

theorem RequestFault.code {kind : Int} {parameters : List ResponseParameters} {st : Status}
    (h : RequestFault kind parameters st) : st.code = .invalidArgument := by
  cases h with
  | kind => rfl
  | parameter _ _ _ hfault => cases hfault <;> rfl

theorem zeros_of_nonneg {size : Int} (h : 0 ≤ size) :
    Payload.zeros Payload.compressable size =
      .ok ⟨Payload.compressable, List.replicate size.toNat 0⟩ := by
  obtain ⟨n, rfl⟩ := Int.eq_ofNat_of_zero_le h
  rfl

/-- Where there is a payload at all, its size is all that it depends on. -/
theorem eq_of_zeros {kind size : Int} {payload : Payload}
    (h : Payload.zeros kind size = .ok payload) :
    payload = ⟨Payload.compressable, List.replicate size.toNat 0⟩ := by
  unfold Payload.zeros at h
  split at h
  · cases h
  · split at h <;> cases h
    rfl

/-! ## The check follows the rule -/

theorem admitParameters_append {before : List ResponseParameters}
    (rest : List ResponseParameters) (h : ∀ q ∈ before, q.Answerable) :
    admitParameters (before ++ rest) = admitParameters rest := by
  induction before with
  | nil => rfl
  | cons p before ih =>
      obtain ⟨hsize, hinterval⟩ := h p List.mem_cons_self
      rw [List.cons_append, admitParameters, if_neg (by omega), if_neg (by omega)]
      exact ih fun q hq => h q (List.mem_cons_of_mem p hq)

theorem admitParameters_of_fault {p : ResponseParameters} {st : Status}
    (after : List ResponseParameters) (h : ParameterFault p st) :
    admitParameters (p :: after) = .error st := by
  cases h with
  | size hsize =>
      rw [admitParameters, if_pos hsize]
      rfl
  | interval hsize hinterval => rw [admitParameters, if_neg (by omega), if_pos hinterval]

theorem admitRequest_compressable (parameters : List ResponseParameters) :
    admitRequest Payload.compressable parameters = admitParameters parameters := rfl

theorem admitRequest_of_answerable {kind : Int} {parameters : List ResponseParameters}
    (h : Answerable kind parameters) : admitRequest kind parameters = .ok () := by
  obtain ⟨rfl, hall⟩ := h
  rw [admitRequest_compressable, ← List.append_nil parameters, admitParameters_append [] hall]
  rfl

theorem admitRequest_of_fault {kind : Int} {parameters : List ResponseParameters} {st : Status}
    (h : RequestFault kind parameters st) : admitRequest kind parameters = .error st := by
  cases h with
  | kind hkind =>
      simp only [admitRequest, Payload.zeros, if_neg hkind]
      rfl
  | parameter hkind hsplit hbefore hfault =>
      subst hkind hsplit
      rw [admitRequest_compressable, admitParameters_append _ hbefore,
        admitParameters_of_fault _ hfault]

theorem parameters_answerable_or_fault (parameters : List ResponseParameters) :
    (∀ p ∈ parameters, p.Answerable) ∨ ∃ before p after st,
      parameters = before ++ p :: after ∧ (∀ q ∈ before, q.Answerable) ∧
        ParameterFault p st := by
  induction parameters with
  | nil => exact Or.inl (by simp)
  | cons p rest ih =>
      by_cases hsize : p.size < 0
      · exact Or.inr ⟨[], p, rest, _, rfl, by simp, .size hsize⟩
      · by_cases hinterval : p.intervalMicros < 0
        · exact Or.inr ⟨[], p, rest, _, rfl, by simp, .interval (by omega) hinterval⟩
        · have hp : p.Answerable := ⟨by omega, by omega⟩
          rcases ih with hall | ⟨before, q, after, st, rfl, hbefore, hfault⟩
          · exact Or.inl (List.forall_mem_cons.mpr ⟨hp, hall⟩)
          · exact Or.inr ⟨p :: before, q, after, st, rfl,
              List.forall_mem_cons.mpr ⟨hp, hbefore⟩, hfault⟩

/-- Every request can be answered in full, or has a fault. -/
theorem answerable_or_fault (kind : Int) (parameters : List ResponseParameters) :
    Answerable kind parameters ∨ ∃ st, RequestFault kind parameters st := by
  by_cases hkind : kind = Payload.compressable
  · rcases parameters_answerable_or_fault parameters with
      hall | ⟨before, p, after, st, hsplit, hbefore, hfault⟩
    · exact Or.inl ⟨hkind, hall⟩
    · exact Or.inr ⟨st, .parameter hkind hsplit hbefore hfault⟩
  · exact Or.inr ⟨_, .kind hkind⟩

theorem admitRequest_error_iff {kind : Int} {parameters : List ResponseParameters}
    {st : Status} :
    admitRequest kind parameters = .error st ↔ RequestFault kind parameters st := by
  refine ⟨fun herror => ?_, admitRequest_of_fault⟩
  rcases answerable_or_fault kind parameters with hall | ⟨st', hfault⟩
  · rw [admitRequest_of_answerable hall] at herror
    cases herror
  · rw [admitRequest_of_fault hfault] at herror
    cases herror
    exact hfault

end RpcConformance
