import Paydesk.Invalid
import Paydesk.Text.Blank

/-!
# Currency codes

A code is three ASCII letters in upper case; whether such a currency exists is not asked.
-/

namespace Paydesk

/-- Three upper-case ASCII letters. -/
def isCurrencyCode (code : String) : Bool :=
  code.toList.length == 3 && code.toList.all Char.isUpper

/-- A currency by its code. -/
structure Currency where
  code : String
  isCode : isCurrencyCode code = true
  deriving DecidableEq

namespace Currency

/-- Reads a code in any case, with blanks around it. -/
def read (s : String) : Except Invalid Currency :=
  let text := Text.trim s
  if h : isCurrencyCode (Text.upper text) = true then .ok ⟨Text.upper text, h⟩
  else .error (.currency text)

def usd : Currency :=
  ⟨"USD", by decide⟩

end Currency

end Paydesk
