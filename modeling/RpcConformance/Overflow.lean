import RpcConformance.Word

/-!
# Arithmetic that leaves its range

Counters and bounds have 64 bits and instants a limited range. Where a result leaves its
range the program stops at that operation.
-/

namespace RpcConformance

/-- The operation whose result left its range. -/
inductive Overflow
  | addition
  | subtraction
  | multiplication
  | instant
deriving DecidableEq

namespace Overflow

def message : Overflow → String
  | addition => "attempt to add with overflow"
  | subtraction => "attempt to subtract with overflow"
  | multiplication => "attempt to multiply with overflow"
  | instant => "overflow when adding duration to instant"

end Overflow

/-- A sum of 64 bits. -/
def addWord (a b : Nat) : Except Overflow Nat :=
  if a + b < wordLimit then .ok (a + b) else .error .addition

/-- A difference of 64 bits without a sign. -/
def subWord (a b : Nat) : Except Overflow Nat :=
  if b ≤ a then .ok (a - b) else .error .subtraction

/-- A product of 64 bits. -/
def mulWord (a b : Nat) : Except Overflow Nat :=
  if a * b < wordLimit then .ok (a * b) else .error .multiplication

/-- A sum of two signed numbers of 32 bits. -/
def addInt32 (a b : Int) : Except Overflow Int :=
  if -(int32Limit : Int) ≤ a + b ∧ a + b < int32Limit then .ok (a + b)
  else .error .addition

end RpcConformance
