import Paydesk.Address.Escape
import Paydesk.Address.Number
import Paydesk.Hostname.Basic
import Paydesk.Web.Percent

/-!
# Hosts of addresses

A host is a name or a number. On the web a name may be written in the characters of any script and
with bytes as digits, and a name that ends in a number is one; elsewhere a name is taken as it is.
Numbers in brackets have 128 bits.
-/

namespace Paydesk.Address

inductive Host where
  | name (carried : List Char)
  | number32 (value : Nat)
  | number128 (groups : List Nat)
  deriving DecidableEq

namespace Host

def toText : Host → List Char
  | .name carried => carried
  | .number32 value => text32 value
  | .number128 groups => '[' :: text128 groups ++ [']']

/-- The host that a text in brackets denotes, if the text begins with one. -/
def bracketed? : List Char → Option (Option Host)
  | '[' :: rest =>
    some (if rest.getLast? = some ']' then (groups128? rest.dropLast).map number128 else none)
  | _ => none

/-- A host of the web. -/
def ofWebText? (cs : List Char) : Option Host :=
  match bracketed? cs with
  | some host => host
  | none => do
    let name ← Hostname.toAscii? (← Web.percentDecode? cs).toList
    if name.isEmpty then none
    else if endsInNumber name then (number32? name).map number32
    else some (.name name)

/-- A character that no host has. -/
def isForbidden (c : Char) : Bool :=
  "\x00\t\n\r #/:<>?@[\\]^|".toList.contains c

/-- A host outside the web. -/
def ofText? (cs : List Char) : Option Host :=
  match bracketed? cs with
  | some host => host
  | none => if cs.any isForbidden then none else some (.name (escape isPrintable cs))

end Host

end Paydesk.Address
