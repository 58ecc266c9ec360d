import Paydesk.Power

/-!
# Decimal numbers

A decimal number is an integer of at most 96 bits and a scale, the number of its digits that stand
after the point; the scale is at most 28. Numbers of one value may differ in scale, so `compare`
looks at values and equality of the structures does not.
-/

namespace Paydesk

/-- Coefficients are less than this. -/
def Decimal.limit : Nat := 0x1000000000000000000000000

/-- The most digits after the point. -/
def Decimal.maxScale : Nat := 28

/-- A coefficient and the number of its digits after the point. -/
structure Decimal where
  coefficient : Int
  scale : Nat
  coefficient_lt : coefficient.natAbs < Decimal.limit
  scale_le : scale ≤ Decimal.maxScale
  deriving DecidableEq

namespace Decimal

theorem natAbs_signed (negative : Bool) (n : Nat) :
    (if negative then -(n : Int) else (n : Int)).natAbs = n := by
  cases negative <;> simp

/-- The number of a sign, a size and a scale, if they fit. -/
def ofParts? (negative : Bool) (size scale : Nat) : Option Decimal :=
  if h : size < limit ∧ scale ≤ maxScale then
    some
      { coefficient := if negative then -(size : Int) else (size : Int)
        scale := scale
        coefficient_lt := by rw [natAbs_signed]; exact h.1
        scale_le := h.2 }
  else none

/-- The whole number of the given value, if it fits. -/
def ofInt? (i : Int) : Option Decimal :=
  ofParts? (i < 0) i.natAbs 0

/-- The order of two values: both coefficients are brought to the sum of the scales. -/
def compare (a b : Decimal) : Ordering :=
  Ord.compare (a.coefficient * tenTo b.scale) (b.coefficient * tenTo a.scale)

def sameValue (a b : Decimal) : Bool :=
  a.coefficient * tenTo b.scale == b.coefficient * tenTo a.scale

end Decimal

end Paydesk
