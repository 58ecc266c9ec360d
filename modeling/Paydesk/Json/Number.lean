import Paydesk.Binary64.Text

/-!
# Numbers in documents

Whole numbers of 64 bits are kept apart from doubles: a number without fraction and exponent is an
integer if it fits, with or without a sign. All others are doubles, read from as many leading digits
as fit 64 bits, with one rounding for the digits and one for the power of ten.
-/

namespace Paydesk.Json

/-- A number as a document holds it. -/
inductive Number where
  | int (i : Int)
  | float (x : Binary64)
  deriving DecidableEq

namespace Number

def toBinary64 : Number → Binary64
  | .int i => Binary64.ofInt i
  | .float x => x

/-- The number as a natural number of 64 bits. -/
def toWord? : Number → Option Nat
  | .int i => if 0 ≤ i ∧ i ≤ Text.maxWord then some i.toNat else none
  | .float _ => none

def toText : Number → String
  | .int i => Text.intText i
  | .float x => x.interchangeText

/-! ## Reading -/

/-- The parts of a number's text. -/
structure Parts where
  negative : Bool
  whole : List Char
  fraction : Option (List Char)
  exponent : Option (Bool × List Char)

/-- Adds digits to a number for as long as it stays within 64 bits, and returns the other digits. -/
def takeDigits : Nat → List Char → Nat × List Char
  | n, [] => (n, [])
  | n, c :: rest =>
    let m := 10 * n + Text.digitValue c
    if m ≤ Text.maxWord then takeDigits m rest else (n, c :: rest)

/-- The largest power of ten among the doubles. -/
def maxPower : Nat := 308

/-- Ten to a power of at most 308 as a double. -/
def power (exponent : Nat) : Binary64 :=
  Binary64.ofNat (tenTo exponent)

/-- Digits times a power of ten; none if the product is infinite. -/
def scaled? (digits : Nat) (exponent : Int) : Option Binary64 :=
  let x := Binary64.ofNat digits
  let places := exponent.natAbs
  if digits = 0 then some x
  else if 0 ≤ exponent then
    if places ≤ maxPower then
      let product := x.mul (power places)
      if product.isFinite then some product else none
    else none
  else if places ≤ maxPower then some (x.div (power places))
  else if places ≤ 2 * maxPower then
    some ((x.div (power maxPower)).div (power (places - maxPower)))
  else some (.finite false 0)

/-- The double of the parts of a number; none if it is infinite. -/
def Parts.float? (p : Parts) : Option Binary64 :=
  let (whole, rest) := takeDigits 0 p.whole
  let fraction := p.fraction.getD []
  let (digits, dropped) := takeDigits whole fraction
  let shift : Int := rest.length - (fraction.length - dropped.length : Nat)
  let exponent : Int := match p.exponent with
    | none => 0
    | some (negative, ds) =>
      let n : Int := Text.digitsValue 0 ds
      if negative then -n else n
  (scaled? digits (shift + exponent)).map fun x => if p.negative then x.neg else x

/-- The integer of the parts of a number, if it is one of 64 bits. A minus sign before zero makes a
double. -/
def Parts.int? (p : Parts) : Option Int :=
  if p.fraction.isSome || p.exponent.isSome then none
  else
    let n := Text.digitsValue 0 p.whole
    if p.negative then
      if 0 < n ∧ n ≤ 0x8000000000000000 then some (-(n : Int)) else none
    else if n ≤ Text.maxWord then some n
    else none

/-- The number of the parts; none if it is infinite. -/
def Parts.toNumber? (p : Parts) : Option Number :=
  match p.int? with
  | some i => some (.int i)
  | none => p.float?.map .float

end Number

end Paydesk.Json
