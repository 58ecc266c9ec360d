import Paydesk.Text.Ascii
import Paydesk.Text.Hex

/-!
# Universal identifiers

A number of 128 bits, written as 32 hexadecimal digits in five groups. Besides the grouped form, the
bare digits, the grouped form in braces and the grouped form after `urn:uuid:` are read, each with
digits of any case; nothing else is.
-/

namespace Paydesk

/-- Identifiers are less than this. -/
def Uuid.limit : Nat := 0x100000000000000000000000000000000

/-- A number of 128 bits that names something. -/
structure Uuid where
  number : Nat
  number_lt : number < Uuid.limit
  deriving DecidableEq

namespace Uuid

/-- The 32 digits, the highest first. -/
def digits (id : Uuid) : List Char :=
  Text.Hex.padded 32 id.number

/-- Lengths of the groups of digits. -/
def groupLengths : List Nat := [8, 4, 4, 4, 12]

/-- Puts a hyphen between groups of the given lengths. -/
def hyphenate : List Nat → List Char → List Char
  | [], cs => cs
  | [_], cs => cs
  | n :: more, cs => cs.take n ++ '-' :: hyphenate more (cs.drop n)

/-- Takes the hyphens between groups of the given lengths away. -/
def unhyphenate? : List Nat → List Char → Option (List Char)
  | [], cs => if cs.isEmpty then some [] else none
  | [n], cs => if cs.length = n then some cs else none
  | n :: more, cs =>
    match cs.drop n with
    | '-' :: rest => (unhyphenate? more rest).map (cs.take n ++ ·)
    | _ => none

/-- The grouped form in lower case. -/
def toText (id : Uuid) : String :=
  String.ofList (hyphenate groupLengths id.digits)

/-- The digits without hyphens. -/
def simpleText (id : Uuid) : String :=
  String.ofList id.digits

/-- The number that hexadecimal digits denote. -/
def digitsNumber? : Nat → List Char → Option Nat
  | n, [] => some n
  | n, c :: rest => (Text.Hex.value? c).bind fun d => digitsNumber? (16 * n + d) rest

/-- The identifier of 32 digits. -/
def ofDigits? (cs : List Char) : Option Uuid :=
  if cs.length = 32 then
    (digitsNumber? 0 cs).bind fun n =>
      if h : n < limit then some ⟨n, h⟩ else none
  else none

def ofGrouped? (cs : List Char) : Option Uuid :=
  (unhyphenate? groupLengths cs).bind ofDigits?

/-- The word before the grouped form that makes it a resource name. -/
def scheme : List Char := "urn:uuid:".toList

/-- The identifier in any of its forms. -/
def read? (s : String) : Option Uuid :=
  let cs := s.toList
  match cs.length with
  | 32 => ofDigits? cs
  | 36 => ofGrouped? cs
  | 38 =>
    if cs.head? = some '\x7b' ∧ cs.getLast? = some '\x7d' then ofGrouped? (cs.drop 1).dropLast
    else none
  | 45 =>
    if (cs.take 9).map Char.toLower = scheme then ofGrouped? (cs.drop 9) else none
  | _ => none

/-- The digit that tells how the identifier was made: the 13th. -/
def version (id : Uuid) : Nat :=
  id.number / 0x10000000000000000000 % 16

/-- The first two bits of the 17th digit, which tell the layout. -/
def variant (id : Uuid) : Nat :=
  id.number / 0x4000000000000000 % 4

end Uuid

end Paydesk
