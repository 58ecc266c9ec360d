import Paydesk.Invalid
import Paydesk.Text.Blank

/-!
# Payment providers

The external processors that a payment can be routed through.
-/

namespace Paydesk

/-- A payment processor. -/
inductive Provider where
  | pagadito
  | visanet
  | paypal
  deriving DecidableEq

namespace Provider

/-- Every provider, in the order in which they are listed. -/
def all : List Provider :=
  [.pagadito, .visanet, .paypal]

def code : Provider → String
  | .pagadito => "PAGADITO"
  | .visanet => "VISANET"
  | .paypal => "PAYPAL"

/-- Reads a code in any case, with blanks around it. -/
def read (s : String) : Except Invalid Provider :=
  let text := Text.trim s
  match all.find? fun p => Text.sameLetters p.code text with
  | some p => .ok p
  | none => .error (.provider text)

end Provider

end Paydesk
