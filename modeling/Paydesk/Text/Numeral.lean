/-!
# Numerals

Natural numbers as decimal digits: how a number is written, how a whole text is read as a number of
bounded size, and what is wrong with a text that is not one. A fault is found from left to right, so
the first bad character wins over an overflow that comes after it.
-/

namespace Paydesk.Text

def digitValue (c : Char) : Nat :=
  c.toNat - 48

/-- The digit of a number below ten. -/
def digitChar (n : Nat) : Char :=
  Char.ofNat (48 + n)

/-- The number that a run of digits denotes, after the digits already read. -/
def digitsValue (start : Nat) (cs : List Char) : Nat :=
  cs.foldl (fun n c => 10 * n + digitValue c) start

/-- The decimal digits of a number, without leading zeros. -/
def natDigits (n : Nat) : List Char :=
  Nat.toDigits 10 n

/-- A number with zeros in front up to a width. -/
def padded (width n : Nat) : List Char :=
  let ds := natDigits n
  List.replicate (width - ds.length) '0' ++ ds

/-- Why a text is not a number of the wanted size. -/
inductive NumeralFault where
  | empty
  | badDigit
  | tooLarge
  deriving DecidableEq

def NumeralFault.message : NumeralFault → String
  | .empty => "cannot parse integer from empty string"
  | .badDigit => "invalid digit found in string"
  | .tooLarge => "number too large to fit in target type"

/-- Reads digits one by one and stops at the first fault; `limit` is the largest number. -/
def readDigits (limit : Nat) : Nat → List Char → Except NumeralFault Nat
  | n, [] => .ok n
  | n, c :: rest =>
    if c.isDigit then
      let m := 10 * n + digitValue c
      if m ≤ limit then readDigits limit m rest else .error .tooLarge
    else .error .badDigit

/-- A natural number of at most `limit`; one plus sign may stand in front. -/
def readNat (limit : Nat) (s : String) : Except NumeralFault Nat :=
  match s.toList with
  | [] => .error .empty
  | ['+'] => .error .badDigit
  | '+' :: cs => readDigits limit 0 cs
  | cs => readDigits limit 0 cs

/-- The largest number of 64 bits. -/
def maxWord : Nat := 0xFFFFFFFFFFFFFFFF

/-- The largest signed number of 64 bits. -/
def maxInt : Nat := 0x7FFFFFFFFFFFFFFF

/-- A signed number of 64 bits; one plus or minus sign may stand in front. -/
def readInt64? (s : String) : Option Int :=
  match s.toList with
  | [] | ['+'] | ['-'] => none
  | '-' :: cs => ((readDigits (maxInt + 1) 0 cs).toOption).map fun n => -(n : Int)
  | '+' :: cs => ((readDigits maxInt 0 cs).toOption).map Int.ofNat
  | cs => ((readDigits maxInt 0 cs).toOption).map Int.ofNat

/-- A number with its sign, which is written for negative numbers only. -/
def intText (i : Int) : String :=
  if i < 0 then String.ofList ('-' :: natDigits i.natAbs) else String.ofList (natDigits i.natAbs)

def natText (n : Nat) : String :=
  String.ofList (natDigits n)

end Paydesk.Text
