import Paydesk.Wire.Payments

/-!
# Refund orders

What the service asks of a payment provider, and what the provider says.
-/

namespace Paydesk

/-- An instruction to pay money back. -/
structure RefundOrder where
  payment : PaymentId
  transaction : Option String
  amount : Amount
  currency : Currency
  reason : Option String

/-- The document of an order; a missing transaction is null, a missing reason is left out. -/
def RefundOrder.toJson (o : RefundOrder) : Json :=
  .record <|
    [("paymentId", .string o.payment.toText), ("transactionId", .optional .string o.transaction),
      ("amount", o.amount.toJson), ("currency", o.currency.toJson)] ++
    Json.present "reason" .string o.reason

/-- What a provider says to an order. -/
structure RefundReply where
  isApproved : Bool
  raw : Option Json
  error : Option String

namespace RefundReply

/-- The money was paid back. -/
def approved (raw : Option Json) : RefundReply :=
  ⟨true, raw, none⟩

/-- The money was not paid back. -/
def declined (error : String) (raw : Option Json) : RefundReply :=
  ⟨false, raw, some error⟩

end RefundReply

end Paydesk
