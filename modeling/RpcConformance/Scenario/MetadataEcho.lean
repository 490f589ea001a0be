import RpcConformance.Scenario.Calls

/-!
# Scenarios with echoed metadata

The values that a scenario sends must come back, as headers and as trailers. A proxy may change
the order of repeated values, but not their number, so both sides are sorted.
-/

namespace RpcConformance.Scenarios

open ScenarioM

/-- The values that a scenario sends under the two echoed keys. -/
structure EchoSample where
  leading : List String
  trailing : List (List UInt8)
deriving DecidableEq

namespace EchoSample

/-- One value under each key. -/
def single : EchoSample := ⟨[Agreed.leadingValue], [Agreed.trailingValue]⟩

/-- Two values under each key. -/
def duplicated : EchoSample :=
  ⟨[Agreed.leadingValue, Agreed.secondLeadingValue],
    [Agreed.trailingValue, Agreed.secondTrailingValue]⟩

/-- Adds the leading values to options. -/
def addLeading (o : CallOptions) : List String → Except AsciiValueError CallOptions
  | [] => .ok o
  | v :: rest => (o.withAscii Agreed.leadingKey v).bind fun o => addLeading o rest

/-- Options that send the values. -/
def options (v : EchoSample) (o : CallOptions) : Except AsciiValueError CallOptions :=
  (addLeading o v.leading).map fun o =>
    v.trailing.foldl (fun o value => o.withBinary Agreed.trailingKey value) o

/-- The order of bytes. -/
def bytesLe : List UInt8 → List UInt8 → Bool
  | [], _ => true
  | _ :: _, [] => false
  | a :: as, b :: bs => if a = b then bytesLe as bs else decide (a < b)

/-- The order of texts, by their bytes. -/
def textLe (a b : String) : Bool := bytesLe (Utf8.encode a) (Utf8.encode b)

/-- A list of texts as a report shows it. -/
def showTexts (l : List String) : String := Text.bracketed (l.map Text.quoted)

/-- A list of byte strings as a report shows it. -/
def showBytes (l : List (List UInt8)) : String :=
  Text.bracketed (l.map fun bytes => Text.bracketed (bytes.map fun b => toString b.toNat))

/-- What is said of a trailing value that does not decode. -/
def undecodable : String :=
  "couldn't decode " ++ Agreed.trailingKey ++ ": failed to parse metadata value"

variable {ρ : Type} [Reporter ρ]

/-- The trailing values that decode; an error is reported for each that does not. -/
def decodeTrailing : List HeaderValue → ScenarioM ρ (List (List UInt8))
  | [] => pure []
  | v :: rest =>
    match v.binary? with
    | some bytes => do
      let decoded ← decodeTrailing rest
      return bytes :: decoded
    | none => do
      error undecodable
      decodeTrailing rest

/-- Checks what came back, in any order. -/
def check (v : EchoSample) (headers trailers : Metadata) : ScenarioM ρ Unit := do
  let leading := (headers.getAll Agreed.leadingKey).map HeaderValue.lossy
  let trailing ← decodeTrailing (trailers.getAll Agreed.trailingKey)
  checkEq showTexts (leading.mergeSort textLe) (v.leading.mergeSort textLe)
    ("values of " ++ Agreed.leadingKey)
  checkEq showBytes (trailing.mergeSort bytesLe) (v.trailing.mergeSort bytesLe)
    ("values of " ++ Agreed.trailingKey)

end EchoSample

variable {ρ : Type} [Reporter ρ]

/-- Options that send the values, with a scope that nothing triggers. -/
def echoOptions (v : EchoSample) : ScenarioM ρ CallOptions := do
  let o ← plainOptions
  requireOk AsciiValueError.message (v.options o) "couldn't build request metadata"

def metadataUnary (c : Context) (v : EchoSample) : ScenarioM ρ Unit := do
  let o ← echoOptions v
  let p ← requireOk PayloadError.message (Payload.zeros Payload.compressable 1)
    "couldn't build payload"
  let r ← unary c.client .test (.unaryCall
    { responseType := Payload.compressable, responseSize := 1, payload := some p }) o
  let response ← requireOk Status.describe r "UnaryCall failed"
  checkLength response.message.toSimple.payload 1 "response payload length"
  v.check response.headers response.trailers
  success "successful custom metadata unary"

def metadataServerStreaming (c : Context) (v : EchoSample) : ScenarioM ρ Unit := do
  let o ← echoOptions v
  let request ← requireOk PayloadError.message (outputRequest [1] (some 1))
    "couldn't build request"
  let r ← serverStreaming c.client .test (.streamingOutputCall request) o
  let st ← requireOk Status.describe r "couldn't open StreamingOutputCall"
  let (r, st) ← receiveServer st
  let response ← expectResponse r "a response"
  checkLength response.payload 1 "response payload length"
  let (r, st) ← receiveServer st
  checkEnd r
  v.check st.responses.headers st.responses.trailers
  success "successful custom metadata server streaming"

def metadataFullDuplex (c : Context) (v : EchoSample) : ScenarioM ρ Unit := do
  let o ← echoOptions v
  let r ← bidiStreaming c.client .fullDuplexCall o
  let st ← requireOk Status.describe r "couldn't open FullDuplexCall"
  let request ← requireOk PayloadError.message (outputRequest [1] (some 1))
    "couldn't build request"
  let (r, st) ← sendBidi st request
  requireOk SendError.message r "couldn't send request"
  let (r, st) ← receiveBidi st
  let response ← expectResponse r "a response"
  checkLength response.payload 1 "response payload length"
  let st ← closeSend st
  let (r, st) ← receiveBidi st
  checkEnd r
  v.check st.responses.headers st.responses.trailers
  success "successful custom metadata full duplex"

end RpcConformance.Scenarios
