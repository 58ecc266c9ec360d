import Paydesk.Power
import Paydesk.Rounding

/-!
# Double-precision numbers

A finite double is a whole multiple of the smallest positive one, so its size is kept as that count
of units and all arithmetic on it is exact arithmetic on natural numbers, followed by one rounding:
to 53 significant bits, to the nearest, a tie to the even neighbour.
-/

namespace Paydesk

/-- A double-precision number; a finite one counts units of 2 ^ -1074. -/
inductive Binary64 where
  | nan
  | infinite (negative : Bool)
  | finite (negative : Bool) (units : Nat)
  deriving DecidableEq

namespace Binary64

/-- The number of units in one. -/
def one : Nat := twoTo 1074

/-- Every finite double has fewer units. -/
def limit : Nat := twoTo 2098

/-- The distance of neighbouring doubles, in units, at a size of so many units. -/
def spacing (units : Nat) : Nat :=
  twoTo (units.log2 - 52)

/-- The double nearest to a quotient of units. -/
def ofUnits (negative : Bool) (n d : Nat) : Binary64 :=
  let step := spacing (n / d)
  let units := divHalfEven n (d * step) * step
  if units < limit then .finite negative units else .infinite negative

/-- The double nearest to a fraction. -/
def ofRatio (negative : Bool) (n d : Nat) : Binary64 :=
  ofUnits negative (n * one) d

/-- The double nearest to a natural number. -/
def ofNat (n : Nat) : Binary64 :=
  ofRatio false n 1

def ofInt (i : Int) : Binary64 :=
  ofRatio (i < 0) i.natAbs 1

/-- A number that is neither infinite nor undefined. -/
def isFinite : Binary64 → Bool
  | .finite _ _ => true
  | _ => false

/-- A zero of either sign. -/
def isZero : Binary64 → Bool
  | .finite _ units => units == 0
  | _ => false

/-- The same size with the other sign. -/
def neg : Binary64 → Binary64
  | .nan => .nan
  | .infinite negative => .infinite !negative
  | .finite negative units => .finite (!negative) units

def add : Binary64 → Binary64 → Binary64
  | .nan, _ | _, .nan => .nan
  | .infinite s, .infinite t => if s = t then .infinite s else .nan
  | .infinite s, _ | _, .infinite s => .infinite s
  | .finite s a, .finite t b =>
    if s = t then ofUnits s (a + b) 1
    else if b < a then ofUnits s (a - b) 1
    else if a < b then ofUnits t (b - a) 1
    else .finite false 0

def mul : Binary64 → Binary64 → Binary64
  | .nan, _ | _, .nan => .nan
  | .infinite s, .infinite t => .infinite (s != t)
  | .infinite s, .finite t b | .finite t b, .infinite s =>
    if b = 0 then .nan else .infinite (s != t)
  | .finite s a, .finite t b => ofUnits (s != t) (a * b) one

def div : Binary64 → Binary64 → Binary64
  | .nan, _ | _, .nan => .nan
  | .infinite _, .infinite _ => .nan
  | .infinite s, .finite t _ => .infinite (s != t)
  | .finite s _, .infinite t => .finite (s != t) 0
  | .finite s a, .finite t b =>
    if b = 0 then if a = 0 then .nan else .infinite (s != t)
    else ofUnits (s != t) (a * one) b

/-- The nearest whole number, a half away from zero. -/
def round : Binary64 → Binary64
  | .finite negative units => .finite negative (divHalfUp units one * one)
  | x => x

/-- A power by repeated squaring, with a rounding after every product. -/
def powLoop : Nat → Binary64 → Binary64 → Nat → Binary64
  | 0, result, _, _ => result
  | fuel + 1, result, base, exponent =>
    let result := if exponent % 2 = 1 then result.mul base else result
    if exponent / 2 = 0 then result else powLoop fuel result (base.mul base) (exponent / 2)

/-- A power with a natural exponent. -/
def pow (base : Binary64) (exponent : Nat) : Binary64 :=
  powLoop (exponent + 1) (ofNat 1) base exponent

end Binary64

end Paydesk
