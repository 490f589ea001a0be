import RpcConformance.Overflow
import RpcConformance.Text.Binary64

/-!
# Histograms

A histogram counts values in buckets of one width, from a minimum up. Values below the
minimum count in the first bucket, and values past the last bucket in the last. The running
sum stops at the largest word.
-/

namespace RpcConformance

/-- Values counted in equal buckets, the last of which is open above. -/
structure Histogram where
  min : Nat
  width : Nat
  counts : List Nat
  count : Nat
  sum : Nat
  max : Nat
deriving DecidableEq

namespace Histogram

/-- An empty histogram; it has at least one bucket, and a width of at least one. -/
def linear (buckets width min : Nat) : Histogram :=
  ⟨min, Max.max width 1, List.replicate (Max.max buckets 1) 0, 0, 0, 0⟩

/-- The bucket that counts a value. -/
def bucketOf (h : Histogram) (value : Nat) : Nat :=
  Min.min ((value - h.min) / h.width) (h.counts.length - 1)

def add (h : Histogram) (value : Nat) : Histogram :=
  { h with
    counts := h.counts.modify (h.bucketOf value) (· + 1)
    count := h.count + 1
    sum := Min.min (h.sum + value) (wordLimit - 1)
    max := Max.max h.max value }

/-- Adds values in order. -/
def addAll (h : Histogram) (values : List Nat) : Histogram := values.foldl add h

/-- The mean of the counted values, zero where there are none. -/
def mean (h : Histogram) : List Char :=
  if h.count = 0 then (Binary64.ofNat 0).twoPlaces
  else ((Binary64.ofNat h.sum).div (Binary64.ofNat h.count)).twoPlaces

/-- The share of a bucket in hundredths, zero where nothing was counted. -/
def percent (h : Histogram) (count : Nat) : List Char :=
  if h.count = 0 then (Binary64.ofNat 0).twoPlaces
  else (((Binary64.ofNat count).mul (Binary64.ofNat 100)).div (Binary64.ofNat h.count)).twoPlaces

def headerLine (h : Histogram) : List Char :=
  "Count: ".toList ++ Decimal.digits h.count ++ "  Mean: ".toList ++ h.mean
    ++ "  Max: ".toList ++ Decimal.digits h.max ++ ['\n']

/-- A line with the bounds of a bucket; the last bucket has no upper bound. -/
def rowLine (h : Histogram) (low : Nat) (high : Option Nat) (count : Nat) : List Char :=
  let upper := match high with
    | some high => Decimal.padLeft 4 (Decimal.digits high)
    | none => "inf".toList
  '[' :: Decimal.padLeft 4 (Decimal.digits low) ++ [',', ' '] ++ upper ++ [')', ' ', ' ']
    ++ Decimal.padLeft 6 (Decimal.digits count) ++ [' ', ' ']
    ++ Decimal.padLeft 6 (h.percent count) ++ ['%', '\n']

/-- The rows from bucket `index` on. A bound is computed as the minimum plus the index times
the width, and an upper bound as the lower one plus the width, each in 64 bits. -/
def rows (h : Histogram) (index : Nat) : List Nat → Except Overflow (List Char)
  | [] => .ok []
  | count :: rest => do
    let offset ← mulWord index h.width
    let low ← addWord h.min offset
    if rest.isEmpty then
      return h.rowLine low none count
    else
      let high ← addWord low h.width
      let below ← h.rows (index + 1) rest
      return h.rowLine low (some high) count ++ below

/-- The header line and a row for every bucket. -/
def render (h : Histogram) : Except Overflow String :=
  (h.rows 0 h.counts).map fun body => String.ofList (h.headerLine ++ body)

end Histogram

end RpcConformance
