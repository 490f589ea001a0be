import RpcConformance.Proofs.HeaderText
import RpcConformance.Proofs.WireFields
import RpcConformance.Wire.ErrorStatus

/-!
# Typed details survive their encoding

Each of the three messages that make up the details of a status is read back from its fields: a
reason and a domain, a named type with a value, and a code, a message and a list of such values.
So the details hold the reason and the domain as they were given, whatever texts they are, and two
statuses that differ have different details.

A length has 64 bits, so the details that are read are those of fewer bytes than there are words,
as all are that fit into a memory.

## Main results

* `ErrorDetail.decode_encode`, `ErrorStatus.decode_encode` — what was encoded is read back.
* `Status.typed_detail_survives` — a detail in a status.
-/

namespace RpcConformance

open Wire

theorem Code.number_injective {c c' : Code} (h : c.number = c'.number) : c = c' := by
  rw [← Code.ofNumber_number c, h, Code.ofNumber_number c']

theorem Code.number_lt (c : Code) : c.number < 17 := by
  cases c <;> decide

/-! ## The detail -/

/-- **A detail is read back.** -/
theorem ErrorDetail.decode_encode {d : ErrorDetail} (h : d.encode.length < wordLimit) :
    ErrorDetail.decode d.encode = .ok d := by
  have hreason := length_le_writeTextField 1 d.reason
  have hdomain := length_le_writeTextField 2 d.domain
  rw [encode, List.length_append] at h
  have hlast : Reads readField maxDepth 0 ⟨d.reason, ""⟩
      (writeTextField 2 d.domain ++ []) d [] := by
    refine .optional (fun hempty => ?_) (by decide) (by decide) ?_ (.nil (Nat.le_refl 0))
      (Nat.le_refl 0)
    · show (⟨d.reason, ""⟩ : ErrorDetail) = ⟨d.reason, d.domain⟩
      rw [hempty]
    · show inField _ ((readText .lengthDelimited _).map _) = _
      rw [readText_writeBytes (by omega)]
      rfl
  have hfirst : Reads readField maxDepth 0 ⟨"", ""⟩
      (writeTextField 1 d.reason ++ (writeTextField 2 d.domain ++ [])) d [] := by
    refine .optional (fun hempty => ?_) (by decide) (by decide) ?_ hlast (Nat.zero_le _)
    · show (⟨"", ""⟩ : ErrorDetail) = ⟨d.reason, ""⟩
      rw [hempty]
    · show inField _ ((readText .lengthDelimited _).map _) = _
      rw [readText_writeBytes (by omega)]
      rfl
  rw [List.append_nil] at hfirst
  exact decode_of_reads hfirst

/-! ## A value of a named type -/

/-- A value is read back where other fields of the message around it follow. -/
theorem AnyValue.reads {a : AnyValue} (h : a.encode.length < wordLimit) (depth : Nat)
    (rest : List UInt8) :
    Reads AnyValue.readField depth rest.length ⟨"", []⟩ (a.encode ++ rest) a rest := by
  have htype := length_le_writeTextField 1 a.typeUrl
  have hvalue := length_le_writeBlobField 2 a.value
  rw [encode, List.length_append] at h
  rw [encode, List.append_assoc]
  have hlast : Reads AnyValue.readField depth rest.length ⟨a.typeUrl, []⟩
      (writeBlobField 2 a.value ++ rest) a rest := by
    refine .optional (fun hempty => ?_) (by decide) (by decide) ?_ (.nil (Nat.le_refl _))
      (Nat.le_refl _)
    · show (⟨a.typeUrl, []⟩ : AnyValue) = ⟨a.typeUrl, a.value⟩
      rw [hempty]
    · show inField _ ((readBlob .lengthDelimited _).map _) = _
      rw [readBlob_writeBytes (by omega)]
      rfl
  refine .optional (fun hempty => ?_) (by decide) (by decide) ?_ hlast
    (by rw [List.length_append]; omega)
  · show (⟨"", []⟩ : AnyValue) = ⟨a.typeUrl, []⟩
    rw [hempty]
  · show inField _ ((readText .lengthDelimited _).map _) = _
    rw [readText_writeBytes (by omega)]
    rfl

theorem AnyValue.length_value_le (a : AnyValue) : a.value.length ≤ a.encode.length := by
  have hvalue := length_le_writeBlobField 2 a.value
  rw [encode, List.length_append]
  omega

/-! ## The details of a status -/

namespace ErrorStatus

/-- Values are added to those before them. -/
theorem reads_encodeDetails (code : Int) (message : String) (before : List AnyValue)
    {values : List AnyValue} (h : (encodeDetails values).length < wordLimit) :
    Reads readField maxDepth 0 ⟨code, message, before⟩ (encodeDetails values)
      ⟨code, message, before ++ values⟩ [] := by
  induction values generalizing before with
  | nil =>
      rw [List.append_nil]
      exact .nil (Nat.le_refl 0)
  | cons a rest ih =>
      have hbytes := length_le_writeBytes a.encode
      rw [encodeDetails, List.length_append, List.length_append] at h
      have hrest := ih (before ++ [a]) (by omega)
      rw [List.append_assoc, List.singleton_append] at hrest
      refine .present (by decide) (by decide) ?_ hrest (Nat.zero_le _)
      show inField _ ((readNested AnyValue.readField ⟨"", []⟩ maxDepth _).map _) = _
      rw [readNested_writeBytes (by decide) (by omega) (AnyValue.reads (by omega) _ _)]
      rfl

/-- **A status is read back from its details.** -/
theorem decode_encode {s : ErrorStatus} (hlow : -(int32Limit : Int) ≤ s.code)
    (hhigh : s.code < int32Limit) (h : s.encode.length < wordLimit) :
    ErrorStatus.decode s.encode = .ok s := by
  have hmessage := length_le_writeTextField 2 s.message
  rw [encode, List.length_append, List.length_append] at h
  have hdetails : Reads readField maxDepth 0 ⟨s.code, s.message, []⟩ (encodeDetails s.details)
      s [] := reads_encodeDetails _ _ [] (by omega)
  have htext : Reads readField maxDepth 0 ⟨s.code, "", []⟩
      (writeTextField 2 s.message ++ encodeDetails s.details) s [] := by
    refine .optional (fun hempty => ?_) (by decide) (by decide) ?_ hdetails (Nat.zero_le _)
    · show (⟨s.code, "", []⟩ : ErrorStatus) = ⟨s.code, s.message, []⟩
      rw [hempty]
    · show inField _ ((readText .lengthDelimited _).map _) = _
      rw [readText_writeBytes (by omega)]
      rfl
  have hcode : Reads readField maxDepth 0 ⟨0, "", []⟩
      (writeInt32Field 1 s.code ++ (writeTextField 2 s.message ++ encodeDetails s.details))
      s [] := by
    refine .optional (fun hzero => ?_) (by decide) (by decide) ?_ htext (Nat.zero_le _)
    · show (⟨0, "", []⟩ : ErrorStatus) = ⟨s.code, "", []⟩
      rw [hzero]
    · show inField _ ((readInt32 .varint _).map _) = _
      rw [readInt32_writeVarint hlow hhigh]
      rfl
  rw [← List.append_assoc] at hcode
  exact decode_of_reads hcode

end ErrorStatus

namespace Status

/-- What the details of a status with one detail hold. -/
theorem decode_withDetail {code : Code} {message : String} {detail : ErrorDetail}
    (h : (withDetail code message detail).details.length < wordLimit) :
    ErrorStatus.decode (withDetail code message detail).details =
      .ok ⟨code.number, message, [⟨ErrorDetail.typeUrl, detail.encode⟩]⟩ := by
  have hcode := code.number_lt
  have hlimit : int32Limit = 2147483648 := by decide
  exact ErrorStatus.decode_encode (by show -(int32Limit : Int) ≤ (code.number : Int); omega)
    (by show (code.number : Int) < int32Limit; omega) h

/-- A detail is no longer than the details around it. -/
theorem length_encode_le_details (code : Code) (message : String) (detail : ErrorDetail) :
    detail.encode.length ≤ (withDetail code message detail).details.length := by
  have hvalue :
      detail.encode.length ≤ (AnyValue.mk ErrorDetail.typeUrl detail.encode).encode.length :=
    AnyValue.length_value_le ⟨ErrorDetail.typeUrl, detail.encode⟩
  have hbytes := length_le_writeBytes (AnyValue.mk ErrorDetail.typeUrl detail.encode).encode
  simp only [withDetail, ErrorStatus.encode, ErrorStatus.encodeDetails, List.length_append]
  omega

/-- Texts of less than half an address space make details that a length can be given of. -/
theorem length_details_lt {code : Code} {message : String} {detail : ErrorDetail}
    (h : (Utf8.encode message).length + (Utf8.encode detail.reason).length
      + (Utf8.encode detail.domain).length < powerOfTwo 63) :
    (withDetail code message detail).details.length < wordLimit := by
  have hhalf : powerOfTwo 63 + 1000 < wordLimit := by decide
  have hcode : (writeInt32Field 1 code.number).length ≤ 11 :=
    length_writeInt32Field_le _ (by decide)
  have hmessage : (writeTextField 2 message).length ≤ (Utf8.encode message).length + 11 :=
    length_writeTextField_le _ (by decide) (by omega)
  have hreason :
      (writeTextField 1 detail.reason).length ≤ (Utf8.encode detail.reason).length + 11 :=
    length_writeTextField_le _ (by decide) (by omega)
  have hdomain :
      (writeTextField 2 detail.domain).length ≤ (Utf8.encode detail.domain).length + 11 :=
    length_writeTextField_le _ (by decide) (by omega)
  have hdetail : detail.encode.length =
      (writeTextField 1 detail.reason).length + (writeTextField 2 detail.domain).length := by
    rw [ErrorDetail.encode, List.length_append]
  have htype : (writeTextField 1 ErrorDetail.typeUrl).length ≤ 100 := by decide +kernel
  have hblob : (writeBlobField 2 detail.encode).length ≤ detail.encode.length + 11 :=
    length_writeBlobField_le _ (by decide) (by omega)
  have hvalue : (AnyValue.mk ErrorDetail.typeUrl detail.encode).encode.length =
      (writeTextField 1 ErrorDetail.typeUrl).length + (writeBlobField 2 detail.encode).length := by
    rw [AnyValue.encode, List.length_append]
  have hkey : (writeKey 3 .lengthDelimited).length ≤ 1 := length_writeKey _ (by decide)
  have hbytes := length_writeBytes_le (AnyValue.mk ErrorDetail.typeUrl detail.encode).encode
    (by omega)
  simp only [withDetail, ErrorStatus.encode, ErrorStatus.encodeDetails, List.length_append,
    List.length_nil]
  omega

/-- **A typed detail survives the encoding of the status.**  A status with a detail has the given
code and message.  Its details are one value of the type of details, in which the detail is found as
it was given; and no status with another code, message, reason or domain has the same details. -/
theorem typed_detail_survives (code : Code) (message : String) (detail : ErrorDetail)
    (h : (withDetail code message detail).details.length < wordLimit) :
    (withDetail code message detail).code = code ∧
      (withDetail code message detail).message = message ∧
      (∃ a, (withDetail code message detail).errorDetails = .ok [a] ∧
        a.typeUrl = ErrorDetail.typeUrl ∧ a.errorDetail = .ok detail) ∧
      ∀ code' message' detail',
        (withDetail code' message' detail').details = (withDetail code message detail).details →
          code' = code ∧ message' = message ∧ detail' = detail := by
  have hdecoded := decode_withDetail h
  have hdetail : ErrorDetail.decode detail.encode = .ok detail :=
    ErrorDetail.decode_encode (Nat.lt_of_le_of_lt (length_encode_le_details code message detail) h)
  refine ⟨rfl, rfl, ⟨⟨ErrorDetail.typeUrl, detail.encode⟩, ?_, rfl, hdetail⟩, ?_⟩
  · have hnonempty : (withDetail code message detail).details ≠ [] := by
      intro hempty
      have hnone : ErrorStatus.decode [] = .ok ⟨0, "", []⟩ := rfl
      rw [hempty, hnone] at hdecoded
      injection hdecoded with hfields
      injection hfields with _ _ hvalues
      cases hvalues
    rw [errorDetails, if_neg hnonempty, hdecoded]
    rfl
  · intro code' message' detail' hsame
    rw [← hsame] at h hdecoded
    rw [decode_withDetail h] at hdecoded
    have hdetail' : ErrorDetail.decode detail'.encode = .ok detail' :=
      ErrorDetail.decode_encode
        (Nat.lt_of_le_of_lt (length_encode_le_details code' message' detail') h)
    injection hdecoded with hfields
    injection hfields with hcode hmessage hvalues
    injection hvalues with hvalue
    injection hvalue with _ hbytes
    rw [hbytes, hdetail] at hdetail'
    injection hdetail' with heq
    exact ⟨Code.number_injective (Int.ofNat.inj hcode), hmessage, heq.symm⟩

/-- A detail with a reason whose length takes three bytes, and with every other field left out. -/
def sampleDetail : ErrorDetail := ⟨String.ofList (List.replicate 16384 'x'), ""⟩

theorem sampleDetail_survives :
    (withDetail .ok "" sampleDetail).details.length < wordLimit ∧
      ∃ a, (withDetail .ok "" sampleDetail).errorDetails = .ok [a] ∧
        a.errorDetail = .ok sampleDetail := by
  have hchars : sampleDetail.reason.toList = List.replicate 16384 'x' := String.toList_ofList
  have hascii : ∀ c ∈ sampleDetail.reason.toList, c.toNat < 128 := by
    intro c hc
    rw [hchars] at hc
    rw [List.eq_of_mem_replicate hc]
    decide
  have hbytes : (Utf8.encode sampleDetail.reason).length = 16384 := by
    rw [HeaderValue.length_encode_ascii hascii, hchars, List.length_replicate]
  have hlength : (withDetail .ok "" sampleDetail).details.length < wordLimit := by
    refine length_details_lt ?_
    rw [hbytes]
    decide
  obtain ⟨-, -, ⟨a, hdetails, -, hdetail⟩, -⟩ := typed_detail_survives .ok "" sampleDetail hlength
  exact ⟨hlength, a, hdetails, hdetail⟩

end Status

end RpcConformance
