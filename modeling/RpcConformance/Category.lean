/-!
# Categories and requirements

Each scenario belongs to one category, and may need features of the transport that not every
target has.
-/

namespace RpcConformance

/-- What a scenario is about. -/
inductive Category
  | unary
  | streaming
  | cancellation
  | metadata
  | status
  | unimplemented
  | errors
  | diagnostic
deriving DecidableEq

namespace Category

/-- Every category, in order. -/
def all : List Category :=
  [unary, streaming, cancellation, metadata, status, unimplemented, errors, diagnostic]

/-- The name of a category in selections and reports. -/
def name : Category → String
  | unary => "unary"
  | streaming => "streaming"
  | cancellation => "cancellation"
  | metadata => "metadata"
  | status => "status"
  | unimplemented => "unimplemented"
  | errors => "errors"
  | diagnostic => "diagnostic"

/-- The identifier of a category in descriptions of a scenario. -/
def identifier : Category → String
  | unary => "Unary"
  | streaming => "Streaming"
  | cancellation => "Cancellation"
  | metadata => "Metadata"
  | status => "Status"
  | unimplemented => "Unimplemented"
  | errors => "Errors"
  | diagnostic => "Diagnostic"

/-- The category of a name, or what is said of a name that no category has. -/
def read (s : String) : Except String Category :=
  match all.find? (·.name == s) with
  | some c => .ok c
  | none => .error ("unknown category: " ++ s)

theorem read_name (c : Category) : read c.name = .ok c := by cases c <;> rfl

end Category

/-- A feature of the transport that a scenario cannot run without. -/
inductive Requirement
  /-- Sending and receiving at the same time on one call. -/
  | fullDuplex
  /-- Trailing metadata after a successful response. -/
  | trailers
deriving DecidableEq

namespace Requirement

def identifier : Requirement → String
  | fullDuplex => "FullDuplex"
  | trailers => "Trailers"

end Requirement

/-- The features that a target has. -/
structure Capabilities where
  fullDuplex : Bool := true
  trailers : Bool := true
deriving DecidableEq

namespace Capabilities

def supports (c : Capabilities) : Requirement → Bool
  | .fullDuplex => c.fullDuplex
  | .trailers => c.trailers

end Capabilities

end RpcConformance
