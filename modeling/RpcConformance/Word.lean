/-!
# Words

Numbers of a fixed number of bits. Powers of two are shifts, which evaluate at any size.

## Main results

* `wordOfInt_lt`: the word with the bits of a signed number is in range.
-/

namespace RpcConformance

/-- The number of values of `k` bits. -/
def powerOfTwo (k : Nat) : Nat := 1 <<< k

/-- The number of values of an unsigned word of 64 bits. -/
def wordLimit : Nat := powerOfTwo 64

/-- Signed numbers of 32 bits lie below this one, and not below its negative. -/
def int32Limit : Nat := powerOfTwo 31

/-- A signed number as the unsigned word with the same bits. -/
def wordOfInt (i : Int) : Nat := (i % (wordLimit : Int)).toNat

theorem wordOfInt_lt (i : Int) : wordOfInt i < wordLimit := by
  have h : (0 : Int) < wordLimit := by decide
  have := Int.emod_nonneg i (Int.ne_of_gt h)
  have := Int.emod_lt_of_pos i h
  unfold wordOfInt
  omega

end RpcConformance
