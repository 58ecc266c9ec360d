import Paydesk.Text.Hex
import Paydesk.Text.Utf8

/-!
# Percent encoding

A percent sign and two hexadecimal digits stand for a byte. A percent sign without two digits after
it stands for itself.
-/

namespace Paydesk.Web

/-- The bytes that an encoded text stands for. -/
def percentBytes : List UInt8 → List UInt8
  | [] => []
  | [a] => [a]
  | [a, b] => [a, b]
  | a :: b :: c :: rest =>
    if a = 0x25 then
      match Text.Hex.value? (Char.ofNat b.toNat), Text.Hex.value? (Char.ofNat c.toNat) with
      | some high, some low => UInt8.ofNat (16 * high + low) :: percentBytes rest
      | _, _ => a :: percentBytes (b :: c :: rest)
    else a :: percentBytes (b :: c :: rest)

/-- The text that an encoded text stands for, if its bytes are one. -/
def percentDecode? (cs : List Char) : Option String :=
  Text.Utf8.decode? (percentBytes (Text.Utf8.encode (String.ofList cs)))

/-- The text that a value of a form stands for: a plus sign is a blank, and bytes that are no text
become replacement characters. -/
def formDecode (cs : List Char) : String :=
  let blanks := cs.map fun c => if c = '+' then ' ' else c
  Text.Utf8.decodeReplacing (percentBytes (Text.Utf8.encode (String.ofList blanks)))

end Paydesk.Web
