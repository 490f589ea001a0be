import RpcConformance.Metadata
import RpcConformance.Text.Quoted

/-!
# Statuses

Every call ends with a status: a code, a message for people, opaque details for programs, and
metadata that travels with it.
-/

namespace RpcConformance

/-- The canonical codes. -/
inductive Code
  | ok
  | cancelled
  | unknown
  | invalidArgument
  | deadlineExceeded
  | notFound
  | alreadyExists
  | permissionDenied
  | resourceExhausted
  | failedPrecondition
  | aborted
  | outOfRange
  | unimplemented
  | internal
  | unavailable
  | dataLoss
  | unauthenticated
deriving DecidableEq

namespace Code

/-- The codes in the order of their numbers. -/
def all : List Code :=
  [ok, cancelled, unknown, invalidArgument, deadlineExceeded, notFound, alreadyExists,
   permissionDenied, resourceExhausted, failedPrecondition, aborted, outOfRange, unimplemented,
   internal, unavailable, dataLoss, unauthenticated]

/-- The number of a code on the wire. -/
def number : Code → Nat
  | ok => 0
  | cancelled => 1
  | unknown => 2
  | invalidArgument => 3
  | deadlineExceeded => 4
  | notFound => 5
  | alreadyExists => 6
  | permissionDenied => 7
  | resourceExhausted => 8
  | failedPrecondition => 9
  | aborted => 10
  | outOfRange => 11
  | unimplemented => 12
  | internal => 13
  | unavailable => 14
  | dataLoss => 15
  | unauthenticated => 16

/-- The code of a number; every number that is no code's is unknown. -/
def ofNumber : Int → Code
  | .ofNat n => all.getD n unknown
  | .negSucc _ => unknown

def name : Code → String
  | ok => "Ok"
  | cancelled => "Cancelled"
  | unknown => "Unknown"
  | invalidArgument => "InvalidArgument"
  | deadlineExceeded => "DeadlineExceeded"
  | notFound => "NotFound"
  | alreadyExists => "AlreadyExists"
  | permissionDenied => "PermissionDenied"
  | resourceExhausted => "ResourceExhausted"
  | failedPrecondition => "FailedPrecondition"
  | aborted => "Aborted"
  | outOfRange => "OutOfRange"
  | unimplemented => "Unimplemented"
  | internal => "Internal"
  | unavailable => "Unavailable"
  | dataLoss => "DataLoss"
  | unauthenticated => "Unauthenticated"

theorem ofNumber_number (c : Code) : ofNumber c.number = c := by cases c <;> rfl

end Code

/-- How a call ended. -/
structure Status where
  code : Code
  message : String
  details : List UInt8 := []
  metadata : Metadata := .empty
deriving DecidableEq

namespace Status

/-- The end of a call that succeeded. -/
def success : Status := ⟨.ok, "", [], .empty⟩

def cancelled (message : String) : Status := ⟨.cancelled, message, [], .empty⟩
def deadlineExceeded (message : String) : Status := ⟨.deadlineExceeded, message, [], .empty⟩
def invalidArgument (message : String) : Status := ⟨.invalidArgument, message, [], .empty⟩
def unimplemented (message : String) : Status := ⟨.unimplemented, message, [], .empty⟩
def internal (message : String) : Status := ⟨.internal, message, [], .empty⟩
def unavailable (message : String) : Status := ⟨.unavailable, message, [], .empty⟩

/-- The status as a report shows it, without its metadata. -/
def describe (s : Status) : String :=
  "status: " ++ s.code.name ++ ", message: " ++ Text.quoted s.message
    ++ ", details: " ++ Text.bracketed (s.details.map fun b => toString b.toNat)

end Status

end RpcConformance
