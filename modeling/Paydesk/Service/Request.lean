import Paydesk.Payment.Basic

/-!
# Requests and answers

What callers ask of the service and what they are told. Values are as the caller gave them; the
service checks them when it acts.
-/

namespace Paydesk

/-- A new payment; the tenant comes from the caller's context. -/
structure CreateRequest where
  provider : String
  amount : Binary64
  currency : String
  order : String
  reference : Option String
  metadata : Option Metadata

/-- The provider has taken the money of a payment. -/
structure CompleteRequest where
  transaction : String
  metadata : Option Metadata

/-- The provider has refused a payment. -/
structure FailRequest where
  reason : String
  metadata : Option Metadata

/-- A payment is to be cancelled. -/
structure CancelRequest where
  reason : Option String

/-- Filters and window of a list of payments. -/
structure ListRequest where
  status : Option String
  provider : Option String
  order : Option String
  limit : Option Nat
  offset : Option Nat

/-- A payment is to be refunded, by default the whole balance. -/
structure RefundRequest where
  payment : String
  tenant : String
  amount : Option Binary64
  reason : Option String

/-- A refund as the body of a call says it; payment and tenant come with the call. -/
structure RefundBody where
  amount : Option Binary64
  reason : Option String

/-- A payment as callers see it. -/
structure PaymentView where
  id : PaymentId
  tenant : String
  provider : Provider
  amount : Binary64
  currency : String
  status : Status
  order : String
  transaction : Option String
  reference : Option String
  metadata : Metadata
  refunded : Option Binary64
  reason : Option String
  createdAt : Instant
  updatedAt : Instant
  completedAt : Option Instant
  failedAt : Option Instant
  refundedAt : Option Instant

def PaymentView.ofPayment (p : Payment) : PaymentView where
  id := p.id
  tenant := p.tenant
  provider := p.provider
  amount := p.amount.toBinary64
  currency := p.currency.code
  status := p.status
  order := p.order
  transaction := p.transaction
  reference := p.reference
  metadata := p.metadata
  refunded := p.refunded.map Amount.toBinary64
  reason := p.reason
  createdAt := p.createdAt
  updatedAt := p.updatedAt
  completedAt := p.completedAt
  failedAt := p.failedAt
  refundedAt := p.refundedAt

/-- How a refund went. A refund that did not happen is told here and not as a failure. -/
structure RefundOutcome where
  payment : String
  status : Status
  amount : Binary64
  isPartial : Bool
  answer : Option Json
  error : Option String

namespace RefundOutcome

/-- A refund that was made and stored. -/
def success (payment : PaymentId) (status : Status) (amount : Amount) (isPartial : Bool)
    (answer : Option Json) : RefundOutcome where
  payment := payment.toText
  status := status
  amount := amount.toBinary64
  isPartial := isPartial
  answer := answer
  error := none

/-- A refund that was not made. -/
def failure (payment error : String) : RefundOutcome where
  payment := payment
  status := .failed
  amount := .finite false 0
  isPartial := false
  answer := none
  error := some error

def isSuccess (r : RefundOutcome) : Bool :=
  r.error.isNone

end RefundOutcome

end Paydesk
