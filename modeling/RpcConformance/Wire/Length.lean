import RpcConformance.Message
import RpcConformance.Wire.Basic

/-!
# Lengths of messages

A receiver refuses a message of more bytes than a limit, so it matters how many bytes a message
takes when it is encoded. Fields at their defaults are left out, and every field of these
messages has a number below sixteen, so that its key takes one byte.
-/

namespace RpcConformance.Wire

/-- The bytes of a number field. -/
def numberLength (i : Int) : Nat := (writeInt32Field 1 i).length

/-- The bytes of a text field. -/
def textLength (s : String) : Nat := (writeTextField 1 s).length

/-- The bytes of a field with so many bytes of content: the key, the length and the content. -/
def nestedLength (content : Nat) : Nat := 1 + (writeVarint content).length + content

/-- The bytes of a field of so many bytes, which is left out when there are none. -/
def blobLength (content : Nat) : Nat := if content = 0 then 0 else nestedLength content

/-- The bytes of a field that holds a message, if it is present. -/
def optionalLength {α : Type} (length : α → Nat) (a : Option α) : Nat :=
  (a.map fun a => nestedLength (length a)).getD 0

end RpcConformance.Wire

namespace RpcConformance

open Wire

def Payload.encodedLength (p : Payload) : Nat := numberLength p.kind + blobLength p.body.length

def EchoStatus.encodedLength (s : EchoStatus) : Nat := numberLength s.code + textLength s.message

def SimpleRequest.encodedLength (r : SimpleRequest) : Nat :=
  numberLength r.responseType + numberLength r.responseSize
    + optionalLength Payload.encodedLength r.payload
    + optionalLength EchoStatus.encodedLength r.responseStatus
    + (if r.fillServerId then 2 else 0)

def ResponseParameters.encodedLength (p : ResponseParameters) : Nat :=
  numberLength p.size + numberLength p.intervalMicros

def StreamingOutputRequest.encodedLength (r : StreamingOutputRequest) : Nat :=
  numberLength r.responseType + (r.parameters.map fun p => nestedLength p.encodedLength).foldr (· + ·) 0
    + optionalLength Payload.encodedLength r.payload
    + optionalLength EchoStatus.encodedLength r.responseStatus

def StreamingInputRequest.encodedLength (r : StreamingInputRequest) : Nat :=
  optionalLength Payload.encodedLength r.payload

def Reply.encodedLength : Reply → Nat
  | .empty => 0
  | .simple r =>
    optionalLength Payload.encodedLength r.payload + textLength r.serverId
      + textLength r.hostname
  | .output p => optionalLength Payload.encodedLength p
  | .aggregate n => numberLength n

/-- The most bytes of a message that a receiver takes. -/
def maxMessageLength : Nat := 4 * 1024 * 1024

/-- The end of a call with a message that is longer. -/
def tooLong (length : Nat) : Status :=
  ⟨.outOfRange, "Error, decoded message length too large: found " ++ Decimal.text length
    ++ " bytes, the limit is: " ++ Decimal.text maxMessageLength ++ " bytes", [], .empty⟩

end RpcConformance
