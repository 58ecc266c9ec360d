import Paydesk.Decimal.Arithmetic
import Paydesk.Decimal.Text
import Paydesk.Binary64.Text
import Paydesk.Invalid

/-!
# Amounts of money

An amount is a decimal number above zero and at most one million that is a whole number of cents, at
whatever scale it was written. Arithmetic ends in the same checks as construction, so a result
outside the range is refused like a bad input.
-/

namespace Paydesk

/-- A valid amount, without its currency. -/
structure Amount where
  value : Decimal
  positive : 0 < value.coefficient
  bounded : value.coefficient ≤ 1000000 * tenTo value.scale
  wholeCents : (tenTo value.scale : Int) ∣ 100 * value.coefficient
  deriving DecidableEq

namespace Amount

/-- Accepts a decimal number as an amount. -/
def ofDecimal (d : Decimal) : Except Invalid Amount :=
  if hp : 0 < d.coefficient then
    if hb : d.coefficient ≤ 1000000 * tenTo d.scale then
      if hc : (tenTo d.scale : Int) ∣ 100 * d.coefficient then .ok ⟨d, hp, hb, hc⟩
      else .error .amountTooFine
    else .error .amountTooLarge
  else .error .amountNotPositive

/-- Takes a double at the face value of its shortest decimal text. -/
def ofBinary64 (x : Binary64) : Except Invalid Amount :=
  if x.isFinite then
    match Decimal.read? x.plainText with
    | none => .error (.amountUnreadable x.plainText)
    | some d => ofDecimal d
  else .error .amountNotFinite

/-- The amount as a double, for wire formats that need a number. -/
def toBinary64 (a : Amount) : Binary64 :=
  a.value.toBinary64

/-- The number of cents. -/
def cents (a : Amount) : Nat :=
  (100 * a.value.coefficient / tenTo a.value.scale).toNat

/-- The amount with exactly two digits after the point. -/
def formatted (a : Amount) : String :=
  a.value.fixedText 2

def compare (a b : Amount) : Ordering :=
  a.value.compare b.value

/-- The first amount is larger. -/
def exceeds (a b : Amount) : Bool :=
  a.compare b == .gt

def sameValue (a b : Amount) : Bool :=
  a.value.sameValue b.value

/-- The checks on the result of an arithmetic operation. -/
def ofResult : Option Decimal → Except Invalid Amount
  | none => .error .amountOverflow
  | some d => ofDecimal d

def add (a b : Amount) : Except Invalid Amount :=
  ofResult (a.value.add? b.value)

def subtract (a b : Amount) : Except Invalid Amount :=
  ofResult (a.value.sub? b.value)

/-- The product with any decimal number. -/
def multiply (a : Amount) (factor : Decimal) : Except Invalid Amount :=
  ofResult (a.value.mul? factor)

end Amount

end Paydesk
