import RpcConformance.Status
import RpcConformance.Wire.Basic

/-!
# Typed error details

The details of a status hold an `ErrorStatus`: the code and message again, and a list of
values of any type. The only type in use is `ErrorDetail`, a reason and a domain.
-/

namespace RpcConformance

/-- Why an operation failed, in a form for programs. -/
structure ErrorDetail where
  reason : String := ""
  domain : String := ""
deriving DecidableEq

namespace ErrorDetail

/-- The name under which values of this type travel. -/
def typeUrl : String := "type.googleapis.com/grpc.testing.ErrorDetail"

def encode (d : ErrorDetail) : List UInt8 :=
  Wire.writeTextField 1 d.reason ++ Wire.writeTextField 2 d.domain

def readField : Wire.FieldReader ErrorDetail
  | 1, kind, _, d, bytes =>
    Wire.inField "ErrorDetail.reason" ((Wire.readText kind bytes).map fun r =>
      (⟨r.1, d.domain⟩, r.2))
  | 2, kind, _, d, bytes =>
    Wire.inField "ErrorDetail.domain" ((Wire.readText kind bytes).map fun r =>
      (⟨d.reason, r.1⟩, r.2))
  | field, kind, depth, d, bytes =>
    Wire.bare ((Wire.skipField field kind depth bytes).map fun rest => (d, rest))

def decode (bytes : List UInt8) : Except Wire.DecodeError ErrorDetail :=
  Wire.decode readField ⟨"", ""⟩ bytes

/-- A detail as a report shows it. -/
def describe (d : ErrorDetail) : String :=
  "ErrorDetail \x7b reason: " ++ Text.quoted d.reason ++ ", domain: " ++ Text.quoted d.domain
    ++ " \x7d"

end ErrorDetail

/-- A value of a named type, still encoded. -/
structure AnyValue where
  typeUrl : String := ""
  value : List UInt8 := []
deriving DecidableEq

namespace AnyValue

def encode (a : AnyValue) : List UInt8 :=
  Wire.writeTextField 1 a.typeUrl ++ Wire.writeBlobField 2 a.value

def readField : Wire.FieldReader AnyValue
  | 1, kind, _, a, bytes =>
    Wire.inField "Any.type_url" ((Wire.readText kind bytes).map fun r => (⟨r.1, a.value⟩, r.2))
  | 2, kind, _, a, bytes =>
    Wire.inField "Any.value" ((Wire.readBlob kind bytes).map fun r => (⟨a.typeUrl, r.1⟩, r.2))
  | field, kind, depth, a, bytes =>
    Wire.bare ((Wire.skipField field kind depth bytes).map fun rest => (a, rest))

end AnyValue

/-- The content of a status's details. -/
structure ErrorStatus where
  code : Int := 0
  message : String := ""
  details : List AnyValue := []
deriving DecidableEq

namespace ErrorStatus

def encodeDetails : List AnyValue → List UInt8
  | [] => []
  | a :: rest =>
    Wire.writeKey 3 .lengthDelimited ++ Wire.writeBytes a.encode ++ encodeDetails rest

def encode (s : ErrorStatus) : List UInt8 :=
  Wire.writeInt32Field 1 s.code ++ Wire.writeTextField 2 s.message ++ encodeDetails s.details

def readField : Wire.FieldReader ErrorStatus
  | 1, kind, _, s, bytes =>
    Wire.inField "ErrorStatus.code" ((Wire.readInt32 kind bytes).map fun r =>
      (⟨r.1, s.message, s.details⟩, r.2))
  | 2, kind, _, s, bytes =>
    Wire.inField "ErrorStatus.message" ((Wire.readText kind bytes).map fun r =>
      (⟨s.code, r.1, s.details⟩, r.2))
  | 3, kind, depth, s, bytes =>
    Wire.inField "ErrorStatus.details"
      (match Wire.expectKind kind .lengthDelimited with
      | .error e => .error e
      | .ok () =>
        (Wire.readNested AnyValue.readField ⟨"", []⟩ depth bytes).map fun r =>
          (⟨s.code, s.message, s.details ++ [r.1]⟩, r.2))
  | field, kind, depth, s, bytes =>
    Wire.bare ((Wire.skipField field kind depth bytes).map fun rest => (s, rest))

def decode (bytes : List UInt8) : Except Wire.DecodeError ErrorStatus :=
  Wire.decode readField ⟨0, "", []⟩ bytes

end ErrorStatus

namespace Status

/-- A status whose details hold one typed detail. -/
def withDetail (code : Code) (message : String) (detail : ErrorDetail) : Status :=
  ⟨code, message,
    (ErrorStatus.mk code.number message [⟨ErrorDetail.typeUrl, detail.encode⟩]).encode, .empty⟩

/-- The typed details of a status, in order; a status without details has none. -/
def errorDetails (s : Status) : Except Wire.DecodeError (List AnyValue) :=
  if s.details = [] then .ok [] else (ErrorStatus.decode s.details).map (·.details)

end Status

/-- The detail that a value holds. -/
def AnyValue.errorDetail (a : AnyValue) : Except Wire.DecodeError ErrorDetail :=
  ErrorDetail.decode a.value

end RpcConformance
