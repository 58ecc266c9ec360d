/-!
# Letters without case

Codes are compared without regard to the case of ASCII letters, and of those only: `ſ` is not `s`
and the Kelvin sign is not `k`. `Char.toLower` and `Char.toUpper` know exactly these letters.
-/

namespace Paydesk.Text

/-- The text with its ASCII letters in lower case. -/
def lower (s : String) : String :=
  String.ofList (s.toList.map Char.toLower)

/-- The text with its ASCII letters in upper case. -/
def upper (s : String) : String :=
  String.ofList (s.toList.map Char.toUpper)

/-- Equality that ignores the case of ASCII letters. -/
def sameLetters (s t : String) : Bool :=
  s.toList.map Char.toLower == t.toList.map Char.toLower

end Paydesk.Text
