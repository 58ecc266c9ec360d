import Paydesk.Currency
import Paydesk.Json.Basic
import Paydesk.Provider
import Paydesk.Status
import Paydesk.Text.Ascii

/-!
# Codes as documents

A currency is written in a document as its code. Providers and states are written by the names of
their alternatives, in capitals, and with `_` between the words of a state. This spelling is made from the
names and not from `Provider.code` and `Status.code`; that it is the same is `Provider.toJson_eq` and
`Status.toJson_eq`.
-/

namespace Paydesk

/-- A name whose words begin with capitals, in lower case and with `_` between the words. -/
def Text.underscored (name : String) : String :=
  match name.toList with
  | [] => ""
  | first :: rest =>
    String.ofList <|
      first.toLower :: rest.flatMap fun c => if c.isUpper then ['_', c.toLower] else [c.toLower]

def Currency.toJson (c : Currency) : Json :=
  .string c.code

namespace Provider

/-- The name of a provider's alternative. -/
def name : Provider → String
  | .pagadito => "Pagadito"
  | .visanet => "Visanet"
  | .paypal => "Paypal"

def toJson (p : Provider) : Json :=
  .string (Text.upper p.name)

theorem toJson_eq (p : Provider) : p.toJson = .string p.code := by
  cases p <;> rfl

end Provider

namespace Status

/-- The name of a state's alternative. -/
def name : Status → String
  | .pending => "Pending"
  | .processing => "Processing"
  | .completed => "Completed"
  | .failed => "Failed"
  | .cancelled => "Cancelled"
  | .refunded => "Refunded"
  | .partiallyRefunded => "PartiallyRefunded"

def toJson (s : Status) : Json :=
  .string (Text.upper (Text.underscored s.name))

theorem toJson_eq (s : Status) : s.toJson = .string s.code := by
  cases s <;> rfl

end Status

end Paydesk
