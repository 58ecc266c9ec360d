import Paydesk.Hostname.Direction
import Paydesk.Hostname.Label
import Paydesk.Hostname.Punycode

/-!
# Host names

A host name in the characters of any script is carried in ASCII: it is spelled and composed, its
labels are checked, and those with characters beyond ASCII are written in basic characters. A label
that is written so already has to carry a label that could have been written. A label that is too
long is neither written nor read.
-/

namespace Paydesk.Hostname

/-- A label as it is read and as it is carried. -/
structure Label where
  shown : List Char
  carried : List Char

/-- Whether all characters are basic ones. -/
def isBasic (cs : List Char) : Bool :=
  cs.all fun c => c.toNat < 0x80

/-- The most basic characters that are read as a label. -/
def maxRead : Nat := 2000

/-- The most characters of a label that are written in basic ones. -/
def maxWritten : Nat := 1000

/-- The label that basic characters carry. -/
def carried? (cs : List Char) : Option (List Char) :=
  if isBasic cs && cs.length ≤ maxRead then Punycode.decode? cs else none

/-- The label of spelled and composed characters. -/
def label? (cs : List Char) : Option Label :=
  if carrierMark.isPrefixOf cs then
    match carried? (cs.drop carrierMark.length) with
    | some shown => if isBasic shown || !isLabel shown then none else some ⟨shown, cs⟩
    | none => none
  else if isBasic cs then some ⟨cs, cs⟩
  else if isLabel cs && cs.length ≤ maxWritten then
    some ⟨cs, carrierMark ++ Punycode.encode cs⟩
  else none

/-- A character that no host name carries. -/
def isForbidden (c : Char) : Bool :=
  c.toNat ≤ 0x20 || c.toNat = 0x7F || "#/:<>?@[\\]^|%".toList.contains c

/-- The name as it is carried. -/
def toAscii? (name : List Char) : Option (List Char) := do
  let labels ← (Text.splitOn '.' (composed (← spell? name))).mapM label?
  let shown := labels.map Label.shown
  let carried := ['.'].intercalate (labels.map Label.carried)
  if (!shown.any isTurned || shown.all keepsDirection) && !carried.any isForbidden then some carried
  else none

end Paydesk.Hostname
