import RpcConformance.Message
import RpcConformance.Wire.ErrorStatus

/-!
# What client and server agree on

The names, sample values and sizes that the test service and the scenarios both use, and the
payloads that they build.
-/

namespace RpcConformance.Agreed

/-- The key whose values come back as headers. -/
def leadingKey : String := "x-grpc-test-echo-initial"

/-- The binary key whose values come back as trailers. -/
def trailingKey : String := "x-grpc-test-echo-trailing-bin"

def leadingValue : String := "test_initial_metadata_value"
def trailingValue : List UInt8 := [0x0a, 0x0b, 0x0a, 0x0b, 0x0a, 0x0b]

/-- The second leading value of the scenarios with repeated keys. -/
def secondLeadingValue : String := leadingValue ++ ",more_stuff"

/-- The second trailing value of the scenarios with repeated keys. -/
def secondTrailingValue : List UInt8 := trailingValue ++ [0x0a]

/-- The message of every error of the methods that always fail. -/
def failureMessage : String := "soirée 🎉"

def domain : String := "connect-crosstest"

/-- The detail of every error of the methods that always fail. -/
def errorDetail : ErrorDetail := ⟨failureMessage, domain⟩

def statusMessage : String := "test status message"

def specialStatusMessage : String :=
  "\t\ntest with whitespace\r\nand Unicode BMP ☺ and non-BMP 😈\t\n"

def unresolvableHost : String := "unresolvable-host.some.domain"

/-- The service that a test server implements. -/
def testService : String := "grpc.testing.TestService"

/-- The service that no server implements. -/
def unimplementedService : String := "grpc.testing.UnimplementedService"

end RpcConformance.Agreed

namespace RpcConformance

/-- Four sizes, for the four messages of a conversation. -/
structure SizeRow where
  first : Int
  second : Int
  third : Int
  fourth : Int
deriving DecidableEq

namespace SizeRow

def toList (r : SizeRow) : List Int := [r.first, r.second, r.third, r.fourth]

end SizeRow

/-- Payload sizes of the scenarios that depend on size. -/
structure Sizes where
  request : SizeRow
  response : SizeRow
  largeRequest : Int
  largeResponse : Int
deriving DecidableEq

namespace Sizes

/-- The traditional sizes. -/
def classic : Sizes :=
  ⟨⟨27182, 8, 1828, 45904⟩, ⟨31415, 9, 2653, 58979⟩, 271828, 314159⟩

/-- Larger sizes. The third response size is 2028, which is what peers expect. -/
def extended : Sizes :=
  ⟨⟨256000, 8, 1024, 32768⟩, ⟨512000, 16, 2028, 65536⟩, 256000, 512000⟩

end Sizes

/-- Why a payload cannot be built. -/
inductive PayloadError
  | negativeSize (size : Int)
  | unsupportedType (kind : Int)
deriving DecidableEq

namespace PayloadError

def message : PayloadError → String
  | negativeSize size => "requested a negative payload size: " ++ Decimal.signedText size
  | unsupportedType kind => "unsupported payload type: " ++ Decimal.signedText kind

/-- The error as the end of a call. -/
def toStatus (e : PayloadError) : Status := .invalidArgument e.message

end PayloadError

namespace Payload

/-- A payload of `size` zero bytes. -/
def zeros (kind size : Int) : Except PayloadError Payload :=
  match size with
  | .negSucc _ => .error (.negativeSize size)
  | .ofNat n =>
    if kind = compressable then .ok ⟨compressable, List.replicate n 0⟩
    else .error (.unsupportedType kind)

end Payload

end RpcConformance
