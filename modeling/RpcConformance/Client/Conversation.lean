import RpcConformance.Client.Basic

/-!
# Conversations of a client

A conversation is a history of one client: it creates scopes, makes calls, works with the
streams that it has opened, and waits. Scopes and streams are numbered in the order in which
they came to be.
-/

namespace RpcConformance

/-- A stream that has been opened. -/
inductive Handle
  | server (st : ServerStream)
  | bidi (st : BidiStream)
  | client (st : ClientStream)
  /-- It has been used up. -/
  | gone

/-- The options of a call: the values that are sent, and the number of a scope. -/
structure CallChoices where
  ascii : List String := []
  binary : List (List UInt8) := []
  scope : Option Nat := none

/-- What a client may do. -/
inductive ClientAction
  | scope (timeout : Option Duration)
  | cancel (scope : Nat)
  | sleep (d : Duration)
  | reconnect
  | call (service : ServiceName) (invocation : Invocation) (choices : CallChoices)
  | send (stream : Nat) (r : Request)
  | closeSend (stream : Nat)
  | drop (stream : Nat)
  | receive (stream : Nat)
  | receiveAll (stream : Nat)
  | closeAndReceive (stream : Nat)
  | metadata (stream : Nat)

/-- What a client learns. -/
inductive ClientAnswer
  | done
  | scope (number : Nat)
  | unary (r : SingleResponse)
  | failed (s : Status)
  | stream (number : Nat)
  | sent
  | sendError (e : SendError)
  | received (r : Except Status (Option Reply))
  | receivedAll (rs : List (Except Status (Option Reply)))
  | metadata (headers trailers : Metadata)
  | invalidOption (e : AsciiValueError)
  | noStream
  | stuck

/-- A method's shape: how its requests and responses are counted. -/
inductive Shape
  | unary
  | serverStreaming
  | clientStreaming
  | bidiStreaming
deriving DecidableEq

def Invocation.shape : Invocation → Shape
  | .streamingOutputCall _ => .serverStreaming
  | .failStreamingOutputCall _ => .serverStreaming
  | .unimplementedStreamingOutputCall => .serverStreaming
  | .streamingInputCall => .clientStreaming
  | .fullDuplexCall => .bidiStreaming
  | .halfDuplexCall => .bidiStreaming
  | _ => .unary

/-- A client with its world, its scopes and its streams. -/
structure Conversation where
  client : Client
  session : Session
  scopes : List Scope
  streams : List Handle

namespace Conversation

/-- A client that has done nothing. -/
def start (client : Client) (server : Backend) : Conversation :=
  ⟨client, .start server, [], []⟩

/-- The options that some choices stand for; without a scope of its own the call gets a new
one. -/
def options (c : Conversation) (choices : CallChoices) :
    Except AsciiValueError CallOptions × Session :=
  let (fresh, session) := c.session.newScope none
  let scope := (choices.scope.bind fun n => c.scopes[n]?).getD fresh
  let base : Except AsciiValueError CallOptions :=
    choices.ascii.foldl
      (fun o v => o.bind fun o => o.withAscii Agreed.leadingKey v) (.ok ⟨.empty, scope⟩)
  (base.map fun o => choices.binary.foldl (fun o v => o.withBinary Agreed.trailingKey v) o,
    session)

/-- Adds a stream. -/
def addStream (c : Conversation) (h : Handle) (s : Session) : ClientAnswer × Conversation :=
  (.stream c.streams.length, { c with streams := c.streams ++ [h], session := s })

/-- Calls a method. -/
def call (c : Conversation) (service : ServiceName) (invocation : Invocation)
    (choices : CallChoices) : ClientAnswer × Conversation :=
  match c.options choices with
  | (.error e, _) => (.invalidOption e, c)
  | (.ok o, s) =>
    match invocation.shape with
    | .unary =>
      match c.client.unary service invocation o s with
      | (.unfinished, s) => (.stuck, { c with session := s })
      | (.answered (.error st), s) => (.failed st, { c with session := s })
      | (.answered (.ok r), s) =>
        (.unary r, { c with session := s })
    | .serverStreaming =>
      match c.client.serverStreaming service invocation o s with
      | (.unfinished, s) => (.stuck, { c with session := s })
      | (.answered (.error st), s) => (.failed st, { c with session := s })
      | (.answered (.ok st), s) => c.addStream (.server st) s
    | .bidiStreaming =>
      match c.client.bidiStreaming invocation o s with
      | (.unfinished, s) => (.stuck, { c with session := s })
      | (.answered (.error st), s) => (.failed st, { c with session := s })
      | (.answered (.ok st), s) => c.addStream (.bidi st) s
    | .clientStreaming =>
      match c.client.clientStreaming o s with
      | (.error st, s) => (.failed st, { c with session := s })
      | (.ok st, s) => c.addStream (.client st) s

/-- The stream of a number. -/
def stream? (c : Conversation) (n : Nat) : Option Handle := c.streams[n]?

def setStream (c : Conversation) (n : Nat) (h : Handle) (s : Session) : Conversation :=
  { c with streams := c.streams.set n h, session := s }

def sendAnswer : Outcome (Except SendError Unit) → ClientAnswer
  | .unfinished => .stuck
  | .answered (.ok ()) => .sent
  | .answered (.error e) => .sendError e

def send (c : Conversation) (n : Nat) (r : Request) : ClientAnswer × Conversation :=
  match c.stream? n with
  | some (.bidi st) =>
    let (answer, st, s) := st.send r c.session
    (sendAnswer answer, c.setStream n (.bidi st) s)
  | some (.client st) =>
    let (answer, st, s) := st.send r c.session
    (sendAnswer answer, c.setStream n (.client st) s)
  | _ => (.noStream, c)

/-- Receives from a stream. -/
def receive (c : Conversation) (n : Nat) :
    Option (Except Status (Option Reply)) × Conversation :=
  match c.stream? n with
  | some (.server st) =>
    let (answer, st, s) := st.receive c.session
    (answer.toOption, c.setStream n (.server st) s)
  | some (.bidi st) =>
    let (answer, st, s) := st.receive c.session
    (answer.toOption, c.setStream n (.bidi st) s)
  | _ => (none, c)

/-- Receives up to the first thing that is no message; the fuel bounds the number of
messages. -/
def receiveAll : Nat → Nat → Conversation → List (Except Status (Option Reply)) × Conversation
  | 0, _, c => ([], c)
  | fuel + 1, n, c =>
    match c.receive n with
    | (none, c) => ([], c)
    | (some (.ok (some r)), c) =>
      let (rest, c) := receiveAll fuel n c
      (.ok (some r) :: rest, c)
    | (some r, c) => ([r], c)

/-- Gives up the call of a stream. -/
def dropHandle (s : Session) : Handle → Session
  | .server st => st.responses.drop s
  | .bidi st => st.responses.drop s
  | .client st => s.abandon st.call
  | .gone => s

/-- Performs an action. -/
def perform (c : Conversation) : ClientAction → ClientAnswer × Conversation
  | .scope timeout =>
    let (scope, s) := c.session.newScope (timeout.map c.session.moment.now.later)
    (.scope c.scopes.length, { c with scopes := c.scopes ++ [scope], session := s })
  | .cancel n =>
    match c.scopes[n]? with
    | some scope => (.done, { c with session := c.session.cancel scope })
    | none => (.done, c)
  | .sleep d =>
    let (_, s) := c.session.run Pause.operation (.fresh d)
    (.done, { c with session := s })
  | .reconnect =>
    let (_, s) := c.client.reconnect c.session
    (.done, { c with session := s })
  | .call service invocation choices => c.call service invocation choices
  | .send n r => c.send n r
  | .closeSend n =>
    match c.stream? n with
    | some (.bidi st) =>
      let (st, s) := st.closeSend c.session
      (.done, c.setStream n (.bidi st) s)
    | _ => (.noStream, c)
  | .drop n =>
    match c.stream? n with
    | some h => (.done, c.setStream n .gone (dropHandle c.session h))
    | none => (.noStream, c)
  | .receive n =>
    match c.receive n with
    | (some r, c) => (.received r, c)
    | (none, c) => (.stuck, c)
  | .receiveAll n =>
    let (rs, c) := receiveAll (c.session.messageBound + 1) n c
    (.receivedAll rs, c)
  | .closeAndReceive n =>
    match c.stream? n with
    | some (.client st) =>
      match st.closeAndReceive c.session with
      | (.unfinished, s) => (.stuck, c.setStream n .gone s)
      | (.answered (.error st), s) => (.failed st, c.setStream n .gone s)
      | (.answered (.ok r), s) => (.unary r, c.setStream n .gone s)
    | _ => (.noStream, c)
  | .metadata n =>
    match c.stream? n with
    | some (.server st) => (.metadata st.responses.headers st.responses.trailers, c)
    | some (.bidi st) => (.metadata st.responses.headers st.responses.trailers, c)
    | _ => (.noStream, c)

/-- Performs actions in order, and gives each answer with the instant after it, and what the
server has seen. -/
def performAll (c : Conversation) : List ClientAction → List (ClientAnswer × Instant) × Session
  | [] => ([], c.session)
  | a :: rest =>
    let (answer, c) := c.perform a
    let (answers, s) := c.performAll rest
    ((answer, c.session.moment.now) :: answers, s)

end Conversation

end RpcConformance
