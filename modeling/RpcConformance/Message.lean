import RpcConformance.Status
import RpcConformance.Text.Decimal

/-!
# Messages of the test service

Sizes, intervals, payload types and codes are signed numbers of 32 bits on the wire, so a
request may ask for negative ones; a service refuses those.
-/

namespace RpcConformance

/-- A typed block of bytes that stands for real content. -/
structure Payload where
  kind : Int
  body : List UInt8
deriving DecidableEq

/-- The only payload type there is. -/
def Payload.compressable : Int := 0

/-- A payload as a report shows it; an unknown type is shown as its number. -/
def Payload.describe (p : Payload) : String :=
  let kind := if p.kind = compressable then "Compressable" else Decimal.signedText p.kind
  "Payload \x7b r#type: " ++ kind ++ ", body: "
    ++ Text.bracketed (p.body.map fun b => toString b.toNat) ++ " \x7d"

/-- The bytes of an optional payload; none when it is absent. -/
def payloadLength (p : Option Payload) : Nat := (p.map (·.body.length)).getD 0

/-- The status that a request asks its call to end with. -/
structure EchoStatus where
  code : Int
  message : String
deriving DecidableEq

structure SimpleRequest where
  responseType : Int := 0
  responseSize : Int := 0
  payload : Option Payload := none
  responseStatus : Option EchoStatus := none
  fillServerId : Bool := false
deriving DecidableEq

structure SimpleResponse where
  payload : Option Payload := none
  serverId : String := ""
  hostname : String := ""
deriving DecidableEq

/-- A response as a report shows it. -/
def SimpleResponse.describe (r : SimpleResponse) : String :=
  let payload := match r.payload with
    | some p => "Some(" ++ p.describe ++ ")"
    | none => "None"
  "SimpleResponse \x7b payload: " ++ payload ++ ", server_id: " ++ Text.quoted r.serverId
    ++ ", hostname: " ++ Text.quoted r.hostname ++ " \x7d"

/-- One wanted response of a stream: its size, and the microseconds to wait before it. -/
structure ResponseParameters where
  size : Int
  intervalMicros : Int := 0
deriving DecidableEq

structure StreamingOutputRequest where
  responseType : Int := 0
  parameters : List ResponseParameters := []
  payload : Option Payload := none
  responseStatus : Option EchoStatus := none
deriving DecidableEq

structure StreamingInputRequest where
  payload : Option Payload := none
deriving DecidableEq

/-- One message on its way to a client. -/
inductive Reply
  | empty
  | simple (response : SimpleResponse)
  | output (payload : Option Payload)
  | aggregate (size : Int)
deriving DecidableEq

namespace Reply

/-- The payload field, which responses of one and of many share. -/
def payload : Reply → Option Payload
  | simple r => r.payload
  | output p => p
  | _ => none

/-- The reply read as a response of its own. -/
def toSimple : Reply → SimpleResponse
  | simple r => r
  | r => ⟨r.payload, "", ""⟩

/-- The reply read as an aggregated size, which is zero where it is not set. -/
def toAggregate : Reply → Int
  | aggregate n => n
  | _ => 0

end Reply

end RpcConformance
