import Paydesk.Binary64.Shortest
import Paydesk.Text.Ascii

/-!
# Doubles as text

Two forms are written, both with the shortest digits: one that is always positional and has no point
for a whole number, and the one of data interchange, which keeps `.0` and turns to an exponent for
very large and very small sizes. One form is read, to the nearest double.
-/

namespace Paydesk.Binary64

/-- Digits with the decimal point after the first `point` of them, padded with zeros. -/
def positional (digits : List Char) (point : Int) : List Char :=
  if point ≤ 0 then '0' :: '.' :: (List.replicate (-point).toNat '0' ++ digits)
  else if digits.length ≤ point.toNat then
    digits ++ List.replicate (point.toNat - digits.length) '0'
  else digits.take point.toNat ++ '.' :: digits.drop point.toNat

def signed (negative : Bool) (text : List Char) : String :=
  String.ofList (if negative then '-' :: text else text)

/-- The positional text of a finite size. -/
def plainSize (units : Nat) : List Char :=
  let d := shortest units
  let digits := Text.natDigits d.digits
  positional digits (digits.length + d.exponent)

/-- The text without an exponent, whatever the size. -/
def plainText : Binary64 → String
  | .nan => "NaN"
  | .infinite negative => signed negative ['i', 'n', 'f']
  | .finite negative units => signed negative (if units = 0 then ['0'] else plainSize units)

/-- The interchange text of a finite size: positional from 10 ^ -5 up to 10 ^ 16. -/
def interchangeSize (units : Nat) : List Char :=
  let d := shortest units
  let digits := Text.natDigits d.digits
  let point : Int := digits.length + d.exponent
  if -5 < point ∧ point ≤ 16 then
    let text := positional digits point
    if (digits.length : Int) ≤ point then text ++ ['.', '0'] else text
  else
    let fraction := digits.drop 1
    digits.take 1 ++ (if fraction.isEmpty then [] else '.' :: fraction) ++
      'e' :: (Text.intText (point - 1)).toList

/-- The text in interchange documents, which know neither infinities nor undefined numbers. -/
def interchangeText : Binary64 → String
  | .finite negative units =>
    signed negative (if units = 0 then ['0', '.', '0'] else interchangeSize units)
  | _ => "null"

/-- The double nearest to a decimal number. Exponents that decide the outcome alone are cut short:
a number of at least 10 ^ 311 is infinite and one below 10 ^ -330 is zero. -/
def ofDecimal (negative : Bool) (digits : Nat) (exponent : Int) : Binary64 :=
  let size : Int := (Text.natDigits digits).length + exponent
  if digits = 0 then .finite negative 0
  else if 311 < size then .infinite negative
  else if size < -330 then .finite negative 0
  else
    let (p, s) := tenPower exponent
    ofRatio negative (digits * p) s

/-- A run of digits from the front. -/
def spanDigits (cs : List Char) : List Char × List Char :=
  cs.span Char.isDigit

/-- The exponent at the end of a number: `e`, a sign and digits. -/
def readExponent? : List Char → Option Int
  | [] => some 0
  | e :: rest =>
    if e = 'e' ∨ e = 'E' then
      let (negative, digits) := match rest with
        | '-' :: ds => (true, ds)
        | '+' :: ds => (false, ds)
        | ds => (false, ds)
      if digits.isEmpty || !digits.all Char.isDigit then none
      else
        let n : Int := Text.digitsValue 0 digits
        some (if negative then -n else n)
    else none

/-- A number without a sign: digits with at most one point, then an exponent; or one of the words
for the two values that have no digits. -/
def readUnsigned? (negative : Bool) (cs : List Char) : Option Binary64 :=
  let word := cs.map Char.toLower
  if word = "inf".toList ∨ word = "infinity".toList then some (.infinite negative)
  else if word = "nan".toList then some .nan
  else
    let (whole, rest) := spanDigits cs
    let (fraction, rest) := match rest with
      | '.' :: more => spanDigits more
      | _ => ([], rest)
    if whole.isEmpty && fraction.isEmpty then none
    else (readExponent? rest).map fun exponent =>
      ofDecimal negative (Text.digitsValue 0 (whole ++ fraction)) (exponent - fraction.length)

/-- A number as text, with an optional sign. -/
def read? (s : String) : Option Binary64 :=
  match s.toList with
  | '-' :: cs => readUnsigned? true cs
  | '+' :: cs => readUnsigned? false cs
  | cs => readUnsigned? false cs

end Paydesk.Binary64
