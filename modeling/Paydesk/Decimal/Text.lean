import Paydesk.Decimal.Basic
import Paydesk.Rounding
import Paydesk.Text.Numeral

/-!
# Decimal numbers as text

A number is written with exactly as many digits after the point as its scale says, or with a given
number of them, by cutting off or adding zeros and never by rounding. It is read digit by digit for
as long as the digits fit: the first one after the point that does not is rounded on, a half upwards,
and of the rest only the form counts. An exponent moves the point of what the text before it denotes;
what it moves past the last place is rounded off, a half upwards.
-/

namespace Paydesk.Decimal

/-- The digits of a size with the point before the last `scale` of them. -/
def sizeText (size scale : Nat) : List Char :=
  let digits := Text.padded (scale + 1) size
  if scale = 0 then digits
  else digits.take (digits.length - scale) ++ '.' :: digits.drop (digits.length - scale)

/-- The number with all its digits after the point. -/
def toText (a : Decimal) : String :=
  let size := sizeText a.coefficient.natAbs a.scale
  String.ofList (if a.coefficient < 0 then '-' :: size else size)

/-- The digits of a size with `places` of them after the point. Those behind are cut off, and zeros
are put where there are none. -/
def fixedSize (places size scale : Nat) : List Char :=
  let digits := Text.padded (scale + 1) size
  let whole := digits.take (digits.length - scale)
  let fraction := (digits.drop (digits.length - scale)).take places
  if places = 0 then whole
  else whole ++ '.' :: (fraction ++ List.replicate (places - fraction.length) '0')

/-- The number with exactly `places` digits after the point. -/
def fixedText (places : Nat) (a : Decimal) : String :=
  let size := fixedSize places a.coefficient.natAbs a.scale
  String.ofList (if a.coefficient < 0 then '-' :: size else size)

/-- How far a text has been read. -/
structure Reading where
  size : Nat := 0
  scale : Nat := 0
  afterPoint : Bool := false
  anyDigit : Bool := false

/-- A digit at which what stands in front of it is rounded up. -/
def roundsUp (c : Char) : Bool :=
  c.isDigit && 5 ≤ Text.digitValue c

/-- The least size of a number without its last digit for which digits behind underscores round. -/
def largeSize : Nat := 0xFFFFFFFFFFFFFFFF / 10 - 0xFF

/-- Rounds what was read on the first of the digits that do not fit. If an underscore stands in front
of it, it rounds large numbers only. A size that this makes too large loses its last digit. -/
def Reading.finish? (r : Reading) (excess : List Char) : Option (Nat × Nat) :=
  if excess.all fun c => c.isDigit || c = '_' then
    let next := if largeSize ≤ r.size / 10 then excess.dropWhile fun c => c = '_' else excess
    let isUp := next.head?.any roundsUp
    let size := if isUp then r.size + 1 else r.size
    if size < limit then some (size, r.scale)
    else if r.scale = 0 then none
    else some ((size + 4) / 10, r.scale - 1)
  else none

/-- Size and scale of the rest of a text that has been read so far. -/
def Reading.run? (r : Reading) : List Char → Option (Nat × Nat)
  | [] => if r.anyDigit then some (r.size, r.scale) else none
  | c :: rest =>
    if r.scale = maxScale then r.finish? (c :: rest)
    else if c.isDigit then
      let size := 10 * r.size + Text.digitValue c
      if size < limit then
        run? { r with
          size := size
          scale := if r.afterPoint then r.scale + 1 else r.scale
          anyDigit := true } rest
      else if r.afterPoint then r.finish? (c :: rest)
      else none
    else if c = '.' ∧ r.afterPoint = false then run? { r with afterPoint := true } rest
    else if c = '_' ∧ r.anyDigit then run? r rest
    else none

/-- A number without an exponent; a sign may stand in front. -/
def readPlain? (cs : List Char) : Option Decimal :=
  let (negative, digits) := match cs with
    | '-' :: ds => (true, ds)
    | '+' :: ds => (false, ds)
    | ds => (false, ds)
  (Reading.run? {} digits).bind fun (size, scale) => ofParts? negative size scale

/-- Moves the point to the left. Digits that this moves past the last place are rounded off. -/
def shiftLeft? (a : Decimal) (places : Nat) : Option Decimal :=
  if places ≤ maxScale then
    let scale := min (a.scale + places) maxScale
    let size := divHalfUp a.coefficient.natAbs (tenTo (a.scale + places - scale))
    ofParts? (a.coefficient < 0) size scale
  else none

/-- Moves the point to the right; past the last digit, zeros are added and the scale is zero. -/
def shiftRight? (a : Decimal) (places : Nat) : Option Decimal :=
  if places ≤ a.scale then
    ofParts? (a.coefficient < 0) a.coefficient.natAbs (a.scale - places)
  else if places ≤ maxScale then
    ofParts? (a.coefficient < 0) (a.coefficient.natAbs * tenTo (places - a.scale)) 0
  else none

/-- The largest number of places in an exponent. -/
def maxPlaces : Nat := 0xFFFFFFFF

/-- The text of an exponent: a number of places, to the left after a minus sign. -/
def shift? (a : Decimal) (exponent : List Char) : Option Decimal :=
  match exponent with
  | '-' :: digits =>
    (Text.readNat maxPlaces (String.ofList digits)).toOption.bind a.shiftLeft?
  | digits => (Text.readNat maxPlaces (String.ofList digits)).toOption.bind a.shiftRight?

def isExponentMark (c : Char) : Bool :=
  c = 'e' || c = 'E'

def read? (s : String) : Option Decimal :=
  let cs := s.toList
  let base := cs.takeWhile fun c => !isExponentMark c
  match cs.dropWhile fun c => !isExponentMark c with
  | [] => readPlain? base
  | _ :: exponent => (readPlain? base).bind fun a => a.shift? exponent

end Paydesk.Decimal
