import Paydesk.Text.Hex
import Paydesk.Text.Utf8

/-!
# Characters of addresses

Each part of an address has characters that stand for themselves in it. The bytes of all others are
written as a percent sign and two hexadecimal digits.
-/

namespace Paydesk.Address

/-- A printable ASCII character. -/
def isPrintable (c : Char) : Bool :=
  0x20 ≤ c.toNat && c.toNat < 0x7F

/-- A printable ASCII character other than the blank and those of a list. -/
def isPlain (others : String) (c : Char) : Bool :=
  isPrintable c && c != ' ' && !others.toList.contains c

/-- A character of a scheme; the first one is a letter. -/
def isSchemeChar (c : Char) : Bool :=
  c.isAlphanum || c = '+' || c = '-' || c = '.'

/-- A character that stands for itself in a path. -/
def isPathChar : Char → Bool := isPlain "\x22#<>?\x60\x7b\x7d"

/-- A character that stands for itself in a query. -/
def isQueryChar : Char → Bool := isPlain "\x22#<>"

/-- A character that stands for itself in the query of an address of the web. -/
def isWebQueryChar : Char → Bool := isPlain "\x22#<>'"

/-- A character that stands for itself in a fragment. -/
def isFragmentChar : Char → Bool := isPlain "\x22<>\x60"

/-- A character that stands for itself in the name or the password of a user. -/
def isUserChar : Char → Bool := isPlain "\x22#<>?\x60\x7b\x7d/:;=@[\\]^|"

/-- A text with the bytes of the characters that do not stand for themselves as digits. -/
def escape (keeps : Char → Bool) (cs : List Char) : List Char :=
  cs.flatMap fun c =>
    if keeps c then [c]
    else (Text.Utf8.encode (String.singleton c)).flatMap fun b =>
      '%' :: (Text.Hex.byteDigits b).map Char.toUpper

end Paydesk.Address
