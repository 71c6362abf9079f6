import Switchboard.Decimal.Shortest

/-!
A histogram of durations: how many were at most each bound, how many there were, and their sum. The sum is
a rounded one, and infinite once it has passed the largest double.
-/

namespace Switchboard

inductive RoundedSum
  | finite (x : Binary64)
  | infinite (negative : Bool)
  deriving DecidableEq, Repr, Inhabited

namespace RoundedSum

def add (sum : RoundedSum) (x : Binary64) : RoundedSum :=
  match sum with
  | finite y => ((y.add? x).map finite).getD (infinite x.negative)
  | infinite negative => infinite negative

/-- The text of a sum: the fewest digits that read back, without exponent. -/
def text : RoundedSum → String
  | finite x => x.text ⟨none, false⟩
  | infinite negative => if negative then "-inf" else "inf"

end RoundedSum

/-- A number of measurements, their sum and their places. -/
structure Histogram where
  /-- How many fell between the bound of each place and the bound before it. -/
  places : List UInt64
  sum : RoundedSum := .finite (.zero false)
  count : UInt64 := 0
  deriving DecidableEq, Repr, Inhabited

namespace Histogram

/-- The bounds, in seconds and ascending. -/
def bounds : List Binary64 :=
  [(1, -4), (5, -4), (1, -3), (5, -3), (1, -2), (5, -2), (1, -1), (5, -1), (1, 0)].map
    fun (digits, exponent) => (Binary64.ofDecimal? false digits exponent).getD (.zero false)

/-- A histogram without measurements. -/
def empty : Histogram := { places := bounds.map fun _ => 0 }

/-- The place of a measurement; it is beyond all places when it is above every bound. -/
def place (x : Binary64) : Nat :=
  (bounds.takeWhile fun bound => !x.le bound).length

def observe (h : Histogram) (x : Binary64) : Histogram :=
  { places := h.places.modify (place x) (· + 1)
    sum := h.sum.add x
    count := h.count + 1 }

def runningTotals (total : UInt64) : List UInt64 → List UInt64
  | [] => []
  | n :: rest => (total + n) :: runningTotals (total + n) rest

/-- How many measurements were at most each bound. -/
def cumulative (h : Histogram) : List UInt64 :=
  runningTotals 0 h.places

end Histogram

end Switchboard
