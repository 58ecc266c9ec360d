import Paydesk.Power
import Paydesk.Text.CodePoint
import Paydesk.Text.Numeral

/-!
# Numbers of hosts

A host can be named by a number. One of 32 bits is written as its four bytes in decimal digits; it
is read from up to four numbers, of which the last one fills all the bytes that are left, and each
of them may be hexadecimal or octal. One of 128 bits is written as eight groups of hexadecimal
digits, and two colons stand for the longest run of groups that are zero.
-/

namespace Paydesk.Address

/-! ## 32 bits -/

/-- A digit of an octal number. -/
def isOctal (c : Char) : Bool :=
  '0' ≤ c && c ≤ '7'

/-- The number that a part denotes; zero in front makes it octal, and `0x` hexadecimal. -/
def partNumber? : List Char → Option Nat
  | [] => none
  | ['0'] => some 0
  | '0' :: 'x' :: digits | '0' :: 'X' :: digits =>
    if digits.all fun c => (Text.Hex.value? c).isSome then some (Text.codePoint digits) else none
  | '0' :: digits =>
    if digits.all isOctal then some (digits.foldl (fun n c => 8 * n + Text.digitValue c) 0)
    else none
  | digits => if digits.all Char.isDigit then some (Text.digitsValue 0 digits) else none

/-- The parts between points, without the empty one behind a point at the end. -/
def numberParts (cs : List Char) : List (List Char) :=
  let parts := Text.splitOn '.' cs
  if parts.getLast? = some [] then parts.dropLast else parts

/-- Whether a name ends in a number, so that it has to be one. -/
def endsInNumber (cs : List Char) : Bool :=
  (numberParts cs).getLast?.any fun part =>
    !part.isEmpty && part.all Char.isDigit || (partNumber? part).isSome

/-- The number of 32 bits that up to four parts denote. -/
def number32? (cs : List Char) : Option Nat := do
  let numbers ← (numberParts cs).mapM partNumber?
  let last ← numbers.getLast?
  let bytes := numbers.dropLast
  if bytes.length ≤ 3 ∧ last < twoTo (8 * (4 - bytes.length)) ∧ bytes.all (· < 256) then
    some (bytes.foldl (fun n b => 256 * n + b) 0 * twoTo (8 * (4 - bytes.length)) + last)
  else none

/-- The four bytes of a number of 32 bits. -/
def text32 (n : Nat) : List Char :=
  ['.'].intercalate
    ([n / 0x1000000, n / 0x10000 % 256, n / 0x100 % 256, n % 256].map Text.natDigits)

/-! ## 128 bits -/

/-- The group that up to four digits denote. -/
def group? (cs : List Char) : Option Nat :=
  if !cs.isEmpty && cs.length ≤ 4 && cs.all fun c => (Text.Hex.value? c).isSome then
    some (Text.codePoint cs)
  else none

/-- The byte that decimal digits denote, without a zero in front. -/
def byte? (cs : List Char) : Option Nat :=
  if cs.isEmpty || !cs.all Char.isDigit || (cs.head? == some '0' && cs.length != 1) then none
  else if Text.digitsValue 0 cs < 256 then some (Text.digitsValue 0 cs)
  else none

/-- The two groups that four bytes denote. -/
def byteGroups? (cs : List Char) : Option (List Nat) := do
  match ← (Text.splitOn '.' cs).mapM byte? with
  | [a, b, c, d] => some [256 * a + b, 256 * c + d]
  | _ => none

/-- The groups between colons. Where they are the last ones of a number, the last two of them may be
written as four bytes. -/
def groups? (areLast : Bool) (cs : List Char) : Option (List Nat) :=
  if cs.isEmpty then some []
  else do
    let parts := Text.splitOn ':' cs
    let front ← parts.dropLast.mapM group?
    let last ← parts.getLast?
    if areLast && last.contains '.' then
      some (front ++ (← byteGroups? last))
    else some (front ++ [← group? last])

/-- The texts before and after the first two colons that stand together. -/
def cutColons? : List Char → Option (List Char × List Char)
  | ':' :: ':' :: rest => some ([], rest)
  | c :: rest => (cutColons? rest).map fun (before, after) => (c :: before, after)
  | [] => none

/-- The eight groups that a text denotes. -/
def groups128? (cs : List Char) : Option (List Nat) :=
  match cutColons? cs with
  | none => do
    let groups ← groups? true cs
    if groups.length = 8 then some groups else none
  | some (before, after) => do
    let front ← groups? false before
    let back ← groups? true after
    let count := front.length + back.length
    if count ≤ 7 then some (front ++ List.replicate (8 - count) 0 ++ back) else none

/-- Place and length of the first of the longest runs of zeros. -/
def longestZeros (groups : List Nat) : Nat × Nat :=
  (List.range groups.length).foldl
    (fun best place =>
      let zeros := ((groups.drop place).takeWhile fun g => g == 0).length
      if best.2 < zeros then (place, zeros) else best)
    (0, 0)

/-- Groups with colons between them. -/
def groupsText (groups : List Nat) : List Char :=
  [':'].intercalate (groups.map (Nat.toDigits 16))

/-- The text of eight groups. A single group that is zero is written. -/
def text128 (groups : List Nat) : List Char :=
  let (place, zeros) := longestZeros groups
  if zeros < 2 then groupsText groups
  else groupsText (groups.take place) ++ "::".toList ++ groupsText (groups.drop (place + zeros))

end Paydesk.Address
