import Paydesk.Text.Quoted
import Paydesk.Uuid

/-!
# Refused values

Why a value is not one that the service works with, and the words for it.
-/

namespace Paydesk

/-- Why a value is refused. -/
inductive Invalid where
  | amountNotPositive
  | amountTooLarge
  | amountTooFine
  | amountNotFinite
  | amountUnreadable (text : String)
  | amountOverflow
  | currency (code : String)
  | provider (name : String)
  | status (name : String)
  | blankPaymentId
  | paymentId (text : String)
  | paymentIdVersion (id : Uuid)
  | paymentIdVariant (id : Uuid)
  | blankTenant
  | blankOrder
  | blankTransaction
  | other (text : String)
  deriving DecidableEq

def Invalid.message : Invalid → String
  | .amountNotPositive => "Amount must be greater than zero"
  | .amountTooLarge => "Amount cannot exceed 1000000"
  | .amountTooFine => "Amount cannot have more than 2 decimal places"
  | .amountNotFinite => "Amount must be a finite number"
  | .amountUnreadable text => "Invalid amount: " ++ text
  | .amountOverflow => "Amount overflow"
  | .currency code => "Invalid currency code: " ++ Text.quoted code
  | .provider name => "Unknown provider type: " ++ Text.quoted name
  | .status name => "Unknown payment status: " ++ Text.quoted name
  | .blankPaymentId => "Payment id cannot be empty"
  | .paymentId text => "Invalid payment id: " ++ text
  | .paymentIdVersion id => "Payment id must be a UUID v7: " ++ id.toText
  | .paymentIdVariant id => "Payment id has an invalid variant: " ++ id.toText
  | .blankTenant => "Tenant id cannot be empty"
  | .blankOrder => "Order id cannot be empty"
  | .blankTransaction => "Transaction id cannot be empty"
  | .other text => text

end Paydesk
