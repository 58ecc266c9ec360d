import Paydesk.Decimal.Basic
import Paydesk.Rounding
import Paydesk.Binary64.Basic

/-!
# Decimal arithmetic

A result is computed exactly first. If it has more digits than a decimal number can hold, the fewest
digits that have to go are rounded off, a half to the even neighbour; a result whose integer part
alone is too large does not exist.
-/

namespace Paydesk.Decimal

/-- The number nearest to an exact result that keeps the most digits after the point. -/
def rounded? (value : Int) (scale : Nat) : Option Decimal :=
  (List.range (scale + 1)).findSome? fun dropped =>
    ofParts? (value < 0) (divHalfEven value.natAbs (tenTo dropped)) (scale - dropped)

/-- The coefficient that the number has at a larger scale. -/
def atScale (a : Decimal) (scale : Nat) : Int :=
  a.coefficient * tenTo (scale - a.scale)

/-- The sum, at the larger of the two scales. -/
def add? (a b : Decimal) : Option Decimal :=
  let scale := max a.scale b.scale
  rounded? (a.atScale scale + b.atScale scale) scale

/-- The difference, at the larger of the two scales. -/
def sub? (a b : Decimal) : Option Decimal :=
  let scale := max a.scale b.scale
  rounded? (a.atScale scale - b.atScale scale) scale

/-- The product, at the sum of the scales. -/
def mul? (a b : Decimal) : Option Decimal :=
  rounded? (a.coefficient * b.coefficient) (a.scale + b.scale)

/-- The double for a size: integer part and fraction are turned into doubles and added, and what the
addition blurs is taken off by rounding to the digits after the point. -/
def sizeToBinary64 (size scale : Nat) : Binary64 :=
  if scale = 0 then Binary64.ofNat size
  else
    let ten := tenTo scale
    let whole := Binary64.ofNat (size / ten)
    let fraction := (Binary64.ofNat (size % ten)).div (Binary64.ofNat ten)
    if fraction.isZero then whole
    else
      let power := (Binary64.ofNat 10).pow scale
      (((whole.add fraction).mul power).round).div power

def toBinary64 (a : Decimal) : Binary64 :=
  let size := sizeToBinary64 a.coefficient.natAbs a.scale
  if a.coefficient < 0 then size.neg else size

end Paydesk.Decimal
