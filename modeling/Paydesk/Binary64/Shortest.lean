import Paydesk.Binary64.Basic
import Paydesk.Text.Numeral

/-!
# Shortest digits

The fewest decimal digits that read back as a given double. The reals that round to a double form an
interval around it, ends included when its significand is even. The grids of one, two, three, …
digits are tried in turn; on each only the two neighbours of the double can lie in the interval, and
of two that do the nearer is taken.
-/

namespace Paydesk.Binary64

/-- Decimal digits with the power of ten that the last one counts. -/
structure Digits where
  digits : Nat
  exponent : Int
  deriving DecidableEq

/-- The numerator and the denominator that a power of ten contributes. -/
def tenPower (exponent : Int) : Nat × Nat :=
  (tenTo exponent.toNat, tenTo (-exponent).toNat)

/-- The exponent for which the value is at least a tenth of that power of ten and less than it. -/
def magnitude (units : Nat) : Int :=
  ((Text.natDigits (units * tenTo 330 / one)).length : Int) - 330

/-- The decimal number reads back as the double of so many units. Sizes are compared in quarters of
a unit, since the interval below a power of two ends a quarter of the spacing away. -/
def readsBack (units digits : Nat) (exponent : Int) : Bool :=
  let step := spacing units
  let above := 2 * step
  let below := if units = twoTo units.log2 ∧ 1 < step then step else above
  let (p, s) := tenPower exponent
  let x := 4 * digits * p * one
  let low := (4 * units - below) * s
  let high := (4 * units + above) * s
  if units / step % 2 = 0 then low ≤ x && x ≤ high else low < x && x < high

/-- The best candidate among the numbers whose last digit counts the given power of ten. -/
def onGrid? (units : Nat) (exponent : Int) : Option Digits :=
  let (p, s) := tenPower exponent
  let n := units * s
  let d := one * p
  let low := n / d
  let nearer := if 2 * (n % d) < d then low
    else if d < 2 * (n % d) then low + 1
    else if low % 2 = 0 then low else low + 1
  let farther := if nearer = low then low + 1 else low
  if 0 < nearer && readsBack units nearer exponent then some ⟨nearer, exponent⟩
  else if 0 < farther && readsBack units farther exponent then some ⟨farther, exponent⟩
  else none

/-- The first grid from `count` digits on with a hit; `fuel` bounds the number of grids. -/
def firstGrid (units : Nat) (top : Int) : Nat → Nat → Digits
  | 0, _ => ⟨0, 0⟩
  | fuel + 1, count =>
    match onGrid? units (top - count) with
    | some found => found
    | none => firstGrid units top fuel (count + 1)

section

-- the numbers of a grid are too large to be evaluated
attribute [local irreducible] onGrid?

theorem firstGrid_zero (units : Nat) (top : Int) (count : Nat) :
    firstGrid units top 0 count = ⟨0, 0⟩ := rfl

theorem firstGrid_succ (units : Nat) (top : Int) (fuel count : Nat) :
    firstGrid units top (fuel + 1) count =
      (onGrid? units (top - count)).getD (firstGrid units top fuel (count + 1)) := by
  show (match onGrid? units (top - count) with
    | some found => found
    | none => firstGrid units top fuel (count + 1)) = _
  cases onGrid? units (top - count) <;> rfl

end

/-- Takes zeros off the end of the digits. -/
def Digits.trimZeros : Nat → Digits → Digits
  | 0, d => d
  | fuel + 1, d =>
    if d.digits ≠ 0 ∧ d.digits % 10 = 0 then trimZeros fuel ⟨d.digits / 10, d.exponent + 1⟩ else d

/-- The shortest digits of a positive double; none for zero. -/
def shortest (units : Nat) : Digits :=
  if units = 0 then ⟨0, 0⟩
  else (firstGrid units (magnitude units) 17 1).trimZeros 17

end Paydesk.Binary64
