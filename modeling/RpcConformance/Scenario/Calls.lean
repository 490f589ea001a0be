import RpcConformance.Scenario.Basic

/-!
# What scenarios have in common

The calls of a client as steps of a scenario, the requests that scenarios send, and the words
for what they received.
-/

namespace RpcConformance

open ScenarioM

/-- A request for one response of each size. -/
def outputRequest (sizes : List Int) (payloadSize : Option Int) :
    Except PayloadError StreamingOutputRequest :=
  let parameters := sizes.map fun size => ⟨size, 0⟩
  match payloadSize with
  | none => .ok ⟨Payload.compressable, parameters, none, none⟩
  | some size =>
    (Payload.zeros Payload.compressable size).map fun p =>
      ⟨Payload.compressable, parameters, some p, none⟩

/-- What was received, in words. -/
def describeReceived : Except Status (Option Reply) → String
  | .ok (some _) => "a response message"
  | .ok none => "end of stream"
  | .error s => s.code.name ++ ": " ++ s.message

/-- A size as an unsigned word. -/
def wordSize (size : Int) : Nat := wordOfInt size

namespace Scenarios

variable {ρ : Type}

/-- Calls a method with a single response. -/
def unary (c : Client) (service : ServiceName) (i : Invocation) (o : CallOptions) :
    ScenarioM ρ (Except Status SingleResponse) :=
  await (c.unary service i o)

/-- Opens a stream of responses. -/
def serverStreaming (c : Client) (service : ServiceName) (i : Invocation)
    (o : CallOptions) : ScenarioM ρ (Except Status ServerStream) :=
  await (c.serverStreaming service i o)

/-- Opens a stream in both directions. -/
def bidiStreaming (c : Client) (i : Invocation) (o : CallOptions) :
    ScenarioM ρ (Except Status BidiStream) :=
  await (c.bidiStreaming i o)

/-- An operation that may wait, with the stream after it. -/
def awaitWith {α σ : Type} (f : Session → Outcome α × σ × Session) : ScenarioM ρ (α × σ) :=
  fun b =>
    match f b.session with
    | (.answered a, st, s) => (.ok (a, st), { b with session := s })
    | (.unfinished, _, s) => (.error .stuck, { b with session := s })

/-- Receives from a stream of responses. -/
def receiveServer (st : ServerStream) :
    ScenarioM ρ (Except Status (Option Reply) × ServerStream) :=
  awaitWith st.receive

/-- Receives from a stream in both directions. -/
def receiveBidi (st : BidiStream) : ScenarioM ρ (Except Status (Option Reply) × BidiStream) :=
  awaitWith st.receive

/-- Sends a request for responses. -/
def sendBidi (st : BidiStream) (r : StreamingOutputRequest) :
    ScenarioM ρ (Except SendError Unit × BidiStream) :=
  awaitWith (st.send (.output r))

/-- Closes the sending side. -/
def closeSend (st : BidiStream) : ScenarioM ρ BidiStream := onSession st.closeSend

variable [Reporter ρ]

/-- Checks the length of a payload against a wanted size. -/
def checkLength (p : Option Payload) (size : Int) (what : String) : ScenarioM ρ Unit :=
  checkEq Decimal.text (payloadLength p) (wordSize size) what

/-- Reports an error unless the stream has ended. -/
def checkEnd (received : Except Status (Option Reply)) : ScenarioM ρ Unit :=
  match received with
  | .ok none => pure ()
  | other => error ("expected end of stream, got " ++ describeReceived other)

/-- The response that was received; anything else is fatal. -/
def expectResponse (received : Except Status (Option Reply)) (what : String) :
    ScenarioM ρ Reply :=
  match received with
  | .ok (some r) => pure r
  | other => fatal ("expected " ++ what ++ ", got " ++ describeReceived other)

/-- Checks the code of a status. -/
def checkCode (actual expected : Code) (what : String) : ScenarioM ρ Unit :=
  checkEq Code.name actual expected what

end Scenarios

end RpcConformance
