import RpcConformance.Message
import RpcConformance.Text.Percent

/-!
# What a server sends and a client sees of a call

A server sends a response in parts: headers, messages, and trailers with a status; a refusal is
a response of one part. The client learns that the call is open, then its messages, then its
status. A call that ends before it was opened has been refused, and then the metadata of the
status came instead of headers.
-/

namespace RpcConformance

/-- One part of a response, as a server sends it. -/
inductive ResponsePart
  | headers (md : Metadata)
  | message (r : Reply)
  /-- The end of a response with headers. -/
  | trailers (s : Status)
  /-- A whole response that is only a status. -/
  | refusal (s : Status)

/-- One thing that a client learns of a call. -/
inductive Event
  | opened (headers : Metadata)
  | message (r : Reply)
  | ended (s : Status)

/-- The code that a header spells; any other spelling than a code's number is unknown. -/
def Code.ofSpelling (bytes : List UInt8) : Code :=
  (all.find? fun c => Utf8.encode (Decimal.text c.number) = bytes).getD unknown

namespace Status

/-- The header that holds the number of the code. -/
def codeKey : String := "grpc-status"

/-- The header that holds the message. -/
def messageKey : String := "grpc-message"

/-- The header that holds the details. -/
def detailsKey : String := "grpc-status-details-bin"

/-- The header in which the message travels. A status without a message has none of its own, so
one among its metadata takes its place. -/
def messageHeader (s : Status) : List UInt8 :=
  if s.message = "" then ((s.metadata.get? messageKey).map (·.bytes)).getD []
  else Percent.write s.message

/-- The details that arrive, which may likewise come from the metadata. -/
def detailsReceived (s : Status) : List UInt8 :=
  if s.details = [] then ((s.metadata.get? detailsKey).bind HeaderValue.binary?).getD []
  else s.details

/-- The metadata that are left when the headers of the status itself have been read. -/
def metadataReceived (s : Status) : Metadata :=
  ((s.metadata.remove codeKey).remove messageKey).remove detailsKey

/-- The status as it arrives. Where the message that has travelled is no text, the status
becomes an unknown one. -/
def delivered (s : Status) : Status :=
  match Percent.read s.messageHeader with
  | .ok message => ⟨s.code, message, s.detailsReceived, s.metadataReceived⟩
  | .error flaw =>
    ⟨.unknown, "Error deserializing status message header: " ++ flaw.message,
      s.detailsReceived, s.metadataReceived⟩

/-- The header that names how messages are compressed. -/
def encodingKey : String := "grpc-encoding"

/-- The only compression that a client can be set to accept. -/
def acceptedEncoding : String := "gzip"

/-- The end of a call whose messages are compressed in a way that the client does not accept. -/
def unacceptedEncoding (encoding : HeaderValue) : Status :=
  let name := match Utf8.decode? encoding.bytes with
    | some text => text
    | none => Text.bracketed (encoding.bytes.map fun b => toString b.toNat)
  .unimplemented ("Content is compressed with \x60" ++ name ++ "\x60 which isn't supported")

/-- What keeps a client from reading the messages after some headers. -/
def unreadable? (compressed : Bool) (md : Metadata) : Option Status :=
  match md.get? encodingKey with
  | none => none
  | some v =>
    if v = .ofText "identity" || (compressed && v = .ofText acceptedEncoding) then none
    else some (unacceptedEncoding v)

/-- The status that some headers spell, if they have one. -/
def ofHeaders? (md : Metadata) : Option Status :=
  (md.get? codeKey).map fun v =>
    Status.delivered ⟨Code.ofSpelling v.bytes, "", [], md⟩

end Status

end RpcConformance
