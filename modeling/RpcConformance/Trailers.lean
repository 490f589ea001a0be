import RpcConformance.Metadata

/-!
# Trailers of successful responses

A handler chooses the headers of its response, but the trailers of a success are written when
the body ends. A handler that wants trailers there leaves them with its response as *pending*
trailers; the body then carries them along and delivers them once: merged into the first
trailers frame of the inner body, or in a frame of their own where the inner body ends without
one. What the data of a frame are is of no concern here.
-/

namespace RpcConformance

/-- A frame of a response body with data of some type. -/
inductive Frame (δ : Type)
  | data (d : δ)
  | trailers (md : Metadata)
deriving DecidableEq

/-- What a poll of a body gives. -/
inductive Poll (δ : Type)
  /-- Nothing yet. -/
  | pending
  | frame (f : Frame δ)
  | failed (message : String)
  | ended
deriving DecidableEq

/-- A response body: it is polled for frames, and can say whether it is at its end and how
many bytes of data are left at least. -/
class Body (δ : outParam Type) (β : Type) where
  poll : β → Poll δ × β
  atEnd : β → Bool
  dataLeft : β → Nat

/-- What a played body does at one poll. -/
inductive Play
  | wait
  | frame (f : Frame (List UInt8))
  | fail (message : String)
deriving DecidableEq

/-- The bytes of data in a frame. -/
def Frame.dataLength : Frame (List UInt8) → Nat
  | data bytes => bytes.length
  | trailers _ => 0

/-- The bytes of data that a play delivers. -/
def Play.dataLength : Play → Nat
  | frame f => f.dataLength
  | _ => 0

/-- A body of bytes that plays what it is given and then stays at its end. -/
structure PlayedBody where
  plays : List Play
deriving DecidableEq

instance : Body (List UInt8) PlayedBody where
  poll b :=
    match b.plays with
    | [] => (.ended, b)
    | .wait :: rest => (.pending, ⟨rest⟩)
    | .frame f :: rest => (.frame f, ⟨rest⟩)
    | .fail message :: rest => (.failed message, ⟨rest⟩)
  atEnd b := b.plays.isEmpty
  dataLeft b := (b.plays.map Play.dataLength).foldr (· + ·) 0

namespace Metadata

/-- The values of one key as a map hands them out: only the first comes with the key's name. -/
def named (key : String) : List HeaderValue → List (Option String × HeaderValue)
  | [] => []
  | value :: values => (some key, value) :: values.map (none, ·)

/-- All values as a map hands them out, key by key. -/
def handOut (m : Metadata) : List (Option String × HeaderValue) :=
  m.keys.flatMap fun key => named key (m.getAll key)

/-- Adds values that were handed out; one without a name belongs to the key named last. -/
def takeIn (m : Metadata) (last : Option String) :
    List (Option String × HeaderValue) → Metadata
  | [] => m
  | (name, value) :: rest =>
    match name.or last with
    | some key => (m.append key value).takeIn (some key) rest
    | none => m.takeIn none rest

/-- Adds the values of another map, each behind those that its key has. -/
def absorb (m other : Metadata) : Metadata := m.takeIn none other.handOut

end Metadata

/-- A body with trailers to deliver at the end of the inner one. -/
structure EchoBody (β : Type) where
  inner : β
  /-- Trailers that have not been delivered yet. -/
  pending : Option Metadata

namespace EchoBody

variable {δ β : Type} [Body δ β]

def poll (b : EchoBody β) : Poll δ × EchoBody β :=
  match Body.poll b.inner, b.pending with
  | (.frame (.trailers md), inner), some pending =>
    (.frame (.trailers (md.absorb pending)), ⟨inner, none⟩)
  | (.ended, inner), some pending => (.frame (.trailers pending), ⟨inner, none⟩)
  | (p, inner), pending => (p, ⟨inner, pending⟩)

/-- At the end only when nothing is pending. -/
def atEnd (b : EchoBody β) : Bool := b.pending.isNone && Body.atEnd b.inner

instance : Body δ (EchoBody β) where
  poll := poll
  atEnd := atEnd
  dataLeft b := Body.dataLeft b.inner

end EchoBody

/-- A response with a body, and the trailers that its handler left for the end of the call. -/
structure Answered (β : Type) where
  body : β
  pendingTrailers : Option Metadata

/-- Hands pending trailers over to the body; empty ones count as none. -/
def Answered.withEcho {β : Type} (r : Answered β) : Answered (EchoBody β) :=
  ⟨⟨r.body, r.pendingTrailers.filter (!·.isEmpty)⟩, none⟩

/-- What is seen of a body before one frame, and what the poll then gave. -/
structure Observation (δ : Type) where
  atEnd : Bool
  dataLeft : Nat
  poll : Poll δ
deriving DecidableEq

/-- Polls until something comes; the fuel bounds the number of waits. -/
def nextPoll {δ β : Type} [Body δ β] : Nat → β → Poll δ × β
  | 0, b => (.pending, b)
  | fuel + 1, b =>
    match Body.poll b with
    | (.pending, b) => nextPoll fuel b
    | r => r

/-- Reads a body up to its end, and notes before each frame what the body said of itself. -/
def observe {δ β : Type} [Body δ β] : Nat → β → List (Observation δ)
  | 0, _ => []
  | fuel + 1, b =>
    let (p, rest) := nextPoll (fuel + 1) b
    ⟨Body.atEnd b, Body.dataLeft b, p⟩ ::
      match p with
      | .ended => []
      | _ => observe fuel rest

/-- Reads a played body with trailers to its end. -/
def EchoBody.observeAll (b : EchoBody PlayedBody) : List (Observation (List UInt8)) :=
  observe (b.inner.plays.length + 2) b

end RpcConformance
