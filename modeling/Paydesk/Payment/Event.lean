import Paydesk.Amount
import Paydesk.Currency
import Paydesk.Instant.Basic
import Paydesk.PaymentId
import Paydesk.Provider

/-!
# Events

What happened to a payment. An event waits at the payment until the change that it tells of is
stored, and is then handed to all who listen.
-/

namespace Paydesk

/-- A change of a payment that others are told of. -/
inductive Change where
  | initiated
  | completed (transaction : String)
  | failed (reason : String)
  | refunded (amount : Amount) (transaction : Option String) (isPartial : Bool)
  deriving DecidableEq

/-- A change, the payment that changed, and when. -/
structure Event where
  payment : PaymentId
  tenant : String
  provider : Provider
  amount : Amount
  currency : Currency
  order : String
  occurredAt : Instant
  change : Change
  deriving DecidableEq

namespace Change

/-- The name of a kind of change in event records. -/
def tag : Change → String
  | .initiated => "PaymentInitiated"
  | .completed _ => "PaymentCompleted"
  | .failed _ => "PaymentFailed"
  | .refunded _ _ _ => "PaymentRefunded"

/-- The name of a kind of change for listeners. -/
def topic : Change → String
  | .initiated => "payment.initiated"
  | .completed _ => "payment.completed"
  | .failed _ => "payment.failed"
  | .refunded _ _ _ => "payment.refunded"

end Change

def Event.topic (e : Event) : String :=
  e.change.topic

end Paydesk
