import RpcConformance.Proofs.Dialogue
import RpcConformance.Proofs.WireFields
import RpcConformance.Scenario.Calls
import RpcConformance.Wire.Length

/-!
# Sizes of payloads

The messages that the scenarios with payloads send and ask for, and when the transport takes them.

## Main results

* `Sizes.Transportable` — no size is negative, and every message is short enough;
  `Sizes.transportable_of_small` gives a bound on the sizes that is enough for it.
* `payloadLength_zeroed` — the bytes of a payload against the size as an unsigned word.
* `StreamingOutputRequest.length_ofSizes` — a request without a payload is short in any case.
-/

namespace RpcConformance

/-! ## Messages -/

/-- Zero bytes of the only type there is. -/
def Payload.zeroed (size : Int) : Payload := ⟨Payload.compressable, List.replicate size.toNat 0⟩

/-- A request with a payload and for one response. -/
def StreamingOutputRequest.ofPair (pair : Int × Int) : StreamingOutputRequest :=
  ⟨Payload.compressable, [⟨pair.2, 0⟩], some (Payload.zeroed pair.1), none⟩

/-- A request for a response of each size. -/
def StreamingOutputRequest.ofSizes (sizes : List Int) : StreamingOutputRequest :=
  ⟨Payload.compressable, sizes.map fun size => ⟨size, 0⟩, none, none⟩

/-- A response with a payload. -/
def Reply.ofSize (size : Int) : Reply := .output (some (Payload.zeroed size))

namespace Sizes

/-- The request for a large response, with a large payload. -/
def largeMessage (t : Sizes) : SimpleRequest :=
  { responseType := Payload.compressable, responseSize := t.largeResponse,
    payload := some (Payload.zeroed t.largeRequest) }

/-- The large response. -/
def largeReply (t : Sizes) : Reply := .simple ⟨some (Payload.zeroed t.largeResponse), "", ""⟩

/-- The sizes of the messages in one conversation. -/
def pairs (t : Sizes) : List (Int × Int) := t.request.toList.zip t.response.toList

/-- All sizes of the table. -/
def entries (t : Sizes) : List Int :=
  t.request.toList ++ t.response.toList ++ [t.largeRequest, t.largeResponse]

/-- The lengths of the messages that have a payload of a size of the table. -/
def messageLengths (t : Sizes) : List Nat :=
  t.pairs.map (fun pair => (StreamingOutputRequest.ofPair pair).encodedLength) ++
    t.response.toList.map (fun size => (Reply.ofSize size).encodedLength) ++
    [t.largeMessage.encodedLength, t.largeReply.encodedLength]

/-- No size is negative, and every message is short enough for the transport. -/
structure Transportable (t : Sizes) : Prop where
  nonneg : ∀ size ∈ t.entries, 0 ≤ size
  short : ∀ length ∈ t.messageLengths, length ≤ maxMessageLength

end Sizes

namespace Sizes.Transportable

variable {t : Sizes}

theorem request_nonneg (h : t.Transportable) : ∀ size ∈ t.request.toList, 0 ≤ size :=
  fun size hsize => h.nonneg size (by simp only [entries, List.mem_append, hsize, true_or])

theorem largeRequest_nonneg (h : t.Transportable) : 0 ≤ t.largeRequest :=
  h.nonneg _ (by simp [entries])

theorem largeResponse_nonneg (h : t.Transportable) : 0 ≤ t.largeResponse :=
  h.nonneg _ (by simp [entries])

theorem largeMessage_short (h : t.Transportable) :
    t.largeMessage.encodedLength ≤ maxMessageLength :=
  h.short _ (by simp [messageLengths])

theorem largeReply_short (h : t.Transportable) : t.largeReply.encodedLength ≤ maxMessageLength :=
  h.short _ (by simp [messageLengths])

end Sizes.Transportable

/-- A size that a response can have. -/
structure Respondable (size : Int) : Prop where
  nonneg : 0 ≤ size
  short : (Reply.ofSize size).encodedLength ≤ maxMessageLength

/-- Sizes that a request of a conversation and its response can have. -/
structure Exchangeable (pair : Int × Int) : Prop where
  nonneg : 0 ≤ pair.1
  short : (StreamingOutputRequest.ofPair pair).encodedLength ≤ maxMessageLength
  respondable : Respondable pair.2

theorem Sizes.Transportable.respondable {t : Sizes} (h : t.Transportable) :
    ∀ size ∈ t.response.toList, Respondable size := by
  intro size hsize
  refine ⟨h.nonneg size ?_, h.short _ ?_⟩
  · rw [entries]
    simp only [List.mem_append, hsize, or_true, true_or]
  · rw [messageLengths]
    simp only [List.mem_append]
    exact Or.inl (Or.inr (List.mem_map_of_mem hsize))

theorem Sizes.Transportable.exchangeable {t : Sizes} (h : t.Transportable) :
    ∀ pair ∈ t.pairs, Exchangeable pair := by
  rintro ⟨request, response⟩ hpair
  obtain ⟨hrequest, hresponse⟩ := List.of_mem_zip hpair
  refine ⟨h.request_nonneg request hrequest, h.short _ ?_, h.respondable response hresponse⟩
  rw [messageLengths]
  simp only [List.mem_append]
  exact Or.inl (Or.inl (List.mem_map_of_mem hpair))

/-! ## Lengths -/

theorem Wire.le_blobLength (n : Nat) : n ≤ blobLength n := by
  rw [blobLength]
  split
  · exact Nat.le_of_eq ‹n = 0›
  · exact Nat.le_add_left n _

/-- A message is not shorter than the payload in it. -/
theorem Payload.length_le (p : Payload) :
    p.body.length ≤ Wire.optionalLength Payload.encodedLength (some p) := by
  have hbody := Wire.le_blobLength p.body.length
  have hpayload : p.encodedLength ≤ Wire.nestedLength p.encodedLength := Nat.le_add_left _ _
  have hencoded : p.encodedLength = Wire.numberLength p.kind + Wire.blobLength p.body.length := rfl
  show _ ≤ Wire.nestedLength p.encodedLength
  omega

theorem Payload.length_zeroed (size : Int) : (Payload.zeroed size).body.length = size.toNat :=
  List.length_replicate

theorem wordSize_of_nonneg {size : Int} (h : 0 ≤ size) (hlimit : size < wordLimit) :
    wordSize size = size.toNat := by
  rw [wordSize, wordOfInt, Int.emod_eq_of_lt h hlimit]

/-- The number of bytes is the size as a word. -/
theorem payloadLength_zeroed {size : Int} (hnonneg : 0 ≤ size)
    (hshort : Wire.optionalLength Payload.encodedLength (some (Payload.zeroed size)) ≤
      maxMessageLength) : payloadLength (some (Payload.zeroed size)) = wordSize size := by
  have hlength := (Payload.zeroed size).length_le
  rw [Payload.length_zeroed] at hlength
  have hlimit : maxMessageLength < wordLimit := by decide
  rw [wordSize_of_nonneg hnonneg (by omega)]
  exact Payload.length_zeroed size

theorem Respondable.payloadLength {size : Int} (h : Respondable size) :
    payloadLength (Reply.ofSize size).payload = wordSize size :=
  payloadLength_zeroed h.nonneg h.short

theorem Exchangeable.request_le {pair : Int × Int} (h : Exchangeable pair) :
    Wire.optionalLength Payload.encodedLength (some (Payload.zeroed pair.1)) ≤
      maxMessageLength := by
  have hshort := h.short
  simp only [StreamingOutputRequest.encodedLength, StreamingOutputRequest.ofPair] at hshort
  omega

namespace Sizes.Transportable

variable {t : Sizes}

theorem payloadLength_large (h : t.Transportable) :
    payloadLength t.largeReply.payload = wordSize t.largeResponse := by
  have hshort := h.largeReply_short
  refine payloadLength_zeroed h.largeResponse_nonneg ?_
  simp only [Reply.encodedLength, largeReply] at hshort
  omega

/-- The payload of a request fits the transport without the rest of the request, too. -/
theorem request_le (h : t.Transportable) : ∀ size ∈ t.request.toList,
    Wire.optionalLength Payload.encodedLength (some (Payload.zeroed size)) ≤ maxMessageLength := by
  intro size hsize
  have hpairs : t.pairs.map Prod.fst = t.request.toList := rfl
  obtain ⟨pair, hpair, rfl⟩ := List.mem_map.mp (hpairs ▸ hsize)
  exact (h.exchangeable pair hpair).request_le

/-- Four payloads have less than 31 bits together. -/
theorem request_sum_lt (h : t.Transportable) :
    (t.request.toList.map Int.toNat).sum < int32Limit := by
  have hsize : ∀ size ∈ t.request.toList, size.toNat ≤ maxMessageLength := by
    intro size hsize
    have hlength := (Payload.zeroed size).length_le
    rw [Payload.length_zeroed] at hlength
    exact Nat.le_trans hlength (h.request_le size hsize)
  have hlimit : 4 * maxMessageLength < int32Limit := by decide
  simp only [SizeRow.toList, List.forall_mem_cons] at hsize
  simp only [SizeRow.toList, List.map_cons, List.map_nil, List.sum_cons, List.sum_nil]
  omega

end Sizes.Transportable

namespace StreamingOutputRequest

theorem answerable_ofSizes {sizes : List Int} (h : ∀ size ∈ sizes, 0 ≤ size) :
    Answerable Payload.compressable (ofSizes sizes).parameters := by
  refine ⟨rfl, fun p hp => ?_⟩
  obtain ⟨size, hsize, rfl⟩ := List.mem_map.mp hp
  exact ⟨h size hsize, Int.le_refl 0⟩

theorem payloads_ofSizes (sizes : List Int) :
    (ofSizes sizes).parameters.map ResponseParameters.payload = sizes.map Payload.zeroed := by
  rw [ofSizes, List.map_map]
  rfl

/-- A parameter without an interval takes few bytes. -/
theorem length_parameter (size : Int) :
    Wire.nestedLength (ResponseParameters.mk size 0).encodedLength ≤ 24 := by
  have hnumber : Wire.numberLength size ≤ 11 := Wire.length_writeInt32Field_le size (by decide)
  have hencoded : (ResponseParameters.mk size 0).encodedLength = Wire.numberLength size := rfl
  have hvarint : (Wire.writeVarint (Wire.numberLength size)).length ≤ 1 :=
    Wire.length_writeVarint 0 (by omega)
  rw [Wire.nestedLength, hencoded]
  omega

/-- A request without a payload is short. -/
theorem length_ofSizes (sizes : List Int) :
    (ofSizes sizes).encodedLength ≤ 24 * sizes.length := by
  have hkind : Wire.numberLength Payload.compressable = 0 := by decide
  have hparameters : ((sizes.map fun size => ResponseParameters.mk size 0).map
      fun p => Wire.nestedLength p.encodedLength).sum ≤ 24 * sizes.length := by
    induction sizes with
    | nil => exact Nat.le_refl 0
    | cons size rest ih =>
        have hfirst := length_parameter size
        rw [List.map_cons, List.map_cons, List.sum_cons, List.length_cons]
        omega
  rw [encodedLength, ofSizes, hkind, Nat.zero_add]
  exact hparameters

/-- A request for the responses of one conversation fits the transport. -/
theorem length_ofSizes_le {sizes : List Int} (hfew : sizes.length ≤ 4) :
    (ofSizes sizes).encodedLength ≤ maxMessageLength := by
  have hlength := length_ofSizes sizes
  have hlimit : 24 * 4 ≤ maxMessageLength := by decide
  omega

theorem answerable_ofPair {pair : Int × Int} (h : 0 ≤ pair.2) :
    Answerable Payload.compressable (ofPair pair).parameters :=
  @answerable_ofSizes [pair.2] (by simpa using h)

theorem responses_ofPair {pair : Int × Int} (h : 0 ≤ pair.2) :
    (ofPair pair).responses = [Payload.zeroed pair.2].map .response :=
  responses_of_answerable (answerable_ofPair h)

theorem failure?_ofPair {pair : Int × Int} (h : 0 ≤ pair.2) : (ofPair pair).failure? = none :=
  failure?_of_answerable (answerable_ofPair h)

/-- Each request of a conversation asks for one response. -/
theorem responses_ofPairs {pairs : List (Int × Int)} (h : ∀ pair ∈ pairs, Exchangeable pair) :
    (pairs.map ofPair).flatMap responses =
      ((pairs.map Prod.snd).map Payload.zeroed).map .response := by
  induction pairs with
  | nil => rfl
  | cons pair rest ih =>
      have hfirst := responses_ofPair (h pair List.mem_cons_self).respondable.nonneg
      have hrest := ih fun q hq => h q (List.mem_cons_of_mem pair hq)
      rw [List.map_cons, List.flatMap_cons, hfirst, hrest]
      rfl

end StreamingOutputRequest

/-! ## Tables of small sizes -/

theorem Wire.nestedLength_le {n : Nat} (h : n < wordLimit) : nestedLength n ≤ n + 11 := by
  have hlimit : wordLimit < 128 ^ (9 + 1) := by decide
  have hvarint := length_writeVarint 9 (Nat.lt_trans h hlimit)
  rw [nestedLength]
  omega

/-- What the encoding adds to the bytes of a payload. -/
theorem Payload.length_zeroed_le {size : Int} (h : size + 64 ≤ maxMessageLength) :
    Wire.optionalLength Payload.encodedLength (some (Payload.zeroed size)) ≤ size.toNat + 22 := by
  have hlimit : maxMessageLength + 64 < wordLimit := by decide
  have hkind : Wire.numberLength Payload.compressable = 0 := by decide
  have hblob : Wire.blobLength size.toNat ≤ size.toNat + 11 := by
    rw [Wire.blobLength]
    split
    · exact Nat.zero_le _
    · exact Wire.nestedLength_le (by omega)
  have hencoded : (Payload.zeroed size).encodedLength = Wire.blobLength size.toNat := by
    show Wire.numberLength Payload.compressable +
      Wire.blobLength (Payload.zeroed size).body.length = _
    rw [hkind, Nat.zero_add, Payload.length_zeroed]
  have hnested := Wire.nestedLength_le (n := (Payload.zeroed size).encodedLength) (by omega)
  show Wire.nestedLength (Payload.zeroed size).encodedLength ≤ _
  omega

/-- **A table is transportable** where every size leaves some bytes of a message for the rest. -/
theorem Sizes.transportable_of_small {t : Sizes}
    (h : ∀ size ∈ t.entries, 0 ≤ size ∧ size + 64 ≤ maxMessageLength) : t.Transportable := by
  have hkind : Wire.numberLength Payload.compressable = 0 := by decide
  have hrow : ∀ size ∈ t.request.toList ++ t.response.toList, 0 ≤ size ∧
      size + 64 ≤ maxMessageLength := fun size hsize => h size (List.mem_append_left _ hsize)
  refine ⟨fun size hsize => (h size hsize).1, fun length hlength => ?_⟩
  simp only [messageLengths, List.mem_append, List.mem_map, List.mem_cons, List.not_mem_nil,
    or_false] at hlength
  rcases hlength with (⟨pair, hpair, rfl⟩ | ⟨size, hsize, rfl⟩) | rfl | rfl
  · obtain ⟨hnonneg, hsmall⟩ := hrow pair.1 (List.mem_append_left _ (List.of_mem_zip hpair).1)
    have hpayload := Payload.length_zeroed_le hsmall
    have hparameter := StreamingOutputRequest.length_parameter pair.2
    have hparameters : ([ResponseParameters.mk pair.2 0].map
        fun p => Wire.nestedLength p.encodedLength).sum ≤ 24 := hparameter
    show Wire.numberLength Payload.compressable + ([ResponseParameters.mk pair.2 0].map _).sum +
      Wire.optionalLength Payload.encodedLength (some (Payload.zeroed pair.1)) + 0 ≤ _
    omega
  · obtain ⟨hnonneg, hsmall⟩ := hrow size (List.mem_append_right _ hsize)
    have hpayload := Payload.length_zeroed_le hsmall
    show Wire.optionalLength Payload.encodedLength (some (Payload.zeroed size)) ≤ _
    omega
  · obtain ⟨hnonneg, hsmall⟩ := h t.largeRequest (by simp [entries])
    have hpayload := Payload.length_zeroed_le hsmall
    have hsize : Wire.numberLength t.largeResponse ≤ 11 :=
      Wire.length_writeInt32Field_le t.largeResponse (by decide)
    show Wire.numberLength Payload.compressable + Wire.numberLength t.largeResponse +
      Wire.optionalLength Payload.encodedLength (some (Payload.zeroed t.largeRequest)) + 0 + 0 ≤ _
    omega
  · obtain ⟨hnonneg, hsmall⟩ := h t.largeResponse (by simp [entries])
    have hpayload := Payload.length_zeroed_le hsmall
    have htext : Wire.textLength "" = 0 := by decide +kernel
    show Wire.optionalLength Payload.encodedLength (some (Payload.zeroed t.largeResponse)) +
      Wire.textLength "" + Wire.textLength "" ≤ _
    omega

example : Sizes.classic.Transportable := Sizes.transportable_of_small (by decide)

example : Sizes.extended.Transportable := Sizes.transportable_of_small (by decide)

end RpcConformance
