import RpcConformance.Agreed

/-!
# Echoed metadata

A method that echoes returns the leading values of its request as headers and the trailing
ones as trailers. Trailing values are decoded and encoded again, so a value that is no base64
is left out. A call that fails before any response carries both in its status.
-/

namespace RpcConformance

/-- The values that a call echoes. -/
structure Echo where
  leading : List HeaderValue
  trailing : List (List UInt8)
deriving DecidableEq

/-- A response of a handler: headers, and trailers for the end of the call. -/
structure Response (α : Type) where
  message : α
  headers : Metadata := .empty
  pendingTrailers : Option Metadata := none

namespace Echo

/-- The values found on a request. -/
def ofMetadata (md : Metadata) : Echo :=
  ⟨md.getAll Agreed.leadingKey, (md.getAll Agreed.trailingKey).filterMap HeaderValue.binary?⟩

def addHeaders (e : Echo) (md : Metadata) : Metadata :=
  md.appendAll Agreed.leadingKey e.leading

def addTrailers (e : Echo) (md : Metadata) : Metadata :=
  md.appendAll Agreed.trailingKey (e.trailing.map HeaderValue.ofBinary)

/-- A response with the echoes; without trailing values it has no pending trailers. -/
def respond {α : Type} (e : Echo) (message : α) : Response α :=
  ⟨message, e.addHeaders .empty,
    if e.trailing.isEmpty then none else some (e.addTrailers .empty)⟩

/-- A status with the echoes. -/
def fail (e : Echo) (s : Status) : Status :=
  { s with metadata := e.addTrailers (e.addHeaders s.metadata) }

end Echo

end RpcConformance
