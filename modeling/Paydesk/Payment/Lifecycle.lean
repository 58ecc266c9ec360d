import Paydesk.Instant.Rfc3339
import Paydesk.Payment.Basic

/-!
# The life of a payment

The commands that change a payment. Each checks the graph of states before anything else and either
fails, with the payment as it was, or gives the changed payment, dated with the time of the command.
Some facts are also written into the metadata under names of their own, after the data of the
caller.
-/

namespace Paydesk.Payment

/-! ## Reserved names in the metadata -/

def refundReasonKey : String := "refundReason"
def refundAmountKey : String := "refundAmount"
def completedAtKey : String := "completedAt"
def failedAtKey : String := "failedAt"
def refundedAtKey : String := "refundedAt"
def cancellationReasonKey : String := "cancellationReason"

/-- Writes a text into the metadata. -/
def note (p : Payment) (key text : String) : Payment :=
  { p with metadata := p.metadata.write key text }

/-- Writes the data of a caller over the metadata. -/
def annotate (p : Payment) (data : Option Metadata) : Payment :=
  { p with metadata := p.metadata.merge (data.getD .empty) }

/-- Writes the data of a caller over the metadata; the payment counts as updated. -/
def updateMetadata (p : Payment) (now : Instant) (data : Metadata) : Payment :=
  { p with metadata := p.metadata.merge data, updatedAt := now }

/-! ## Commands -/

/-- The graph of states has an edge from the payment's state. -/
def requireTransition (p : Payment) (target : Status) : Except PaymentError Unit :=
  if p.status.allows target then .ok () else .error (.illegalTransition p.status target)

/-- A pending payment is handed to its provider. -/
def startProcessing (p : Payment) (now : Instant) : Except PaymentError Payment := do
  p.requireTransition .processing
  return { p with status := .processing, updatedAt := now }

/-- The provider has taken the money. -/
def complete (p : Payment) (now : Instant) (transaction : String) (data : Option Metadata) :
    Except PaymentError Payment := do
  p.requireTransition .completed
  if Text.isBlankText transaction then
    .error (.invalid .blankTransaction)
  else
    let noted := (p.annotate data).note completedAtKey now.toOffsetText
    return Payment.record
      { noted with
        status := .completed
        transaction := some transaction
        completedAt := some now
        updatedAt := now }
      now (.completed transaction)

/-- The provider has refused the payment. -/
def fail (p : Payment) (now : Instant) (reason : String) (data : Option Metadata) :
    Except PaymentError Payment := do
  p.requireTransition .failed
  let noted := (p.annotate data).note failedAtKey now.toOffsetText
  return Payment.record
    { noted with
      status := .failed
      reason := some reason
      failedAt := some now
      updatedAt := now }
    now (.failed reason)

/-- The reason of a cancellation for which none was given. -/
def defaultCancelReason : String := "Payment cancelled"

/-- The payment is given up before any money was taken. -/
def cancel (p : Payment) (now : Instant) (reason : Option String) :
    Except PaymentError Payment := do
  p.requireTransition .cancelled
  let reason := reason.getD defaultCancelReason
  return { p.note cancellationReasonKey reason with
    status := .cancelled
    reason := some reason
    updatedAt := now }

/-! ## Refunds -/

/-- What a refund would do. -/
structure RefundPlan where
  amount : Amount
  isPartial : Bool
  target : Status
  deriving DecidableEq

/-- The balance that can still be paid back; none if nothing is left. -/
def refundable (p : Payment) : Option Amount :=
  match p.refunded with
  | none => some p.amount
  | some refunded => (p.amount.subtract refunded).toOption

/-- Checks a refund of an amount, or of the whole balance. A second refund has to settle the
balance, since no edge leads from the partly refunded state to itself. -/
def planRefund (p : Payment) (amount : Option Amount) : Except PaymentError RefundPlan := do
  if !p.status.isRefundable then
    .error (.illegalTransition p.status .refunded)
  else
    match p.refundable with
    | none => .error (.illegalTransition p.status .refunded)
    | some available =>
      let requested := amount.getD available
      if requested.exceeds available then
        .error (.refundExceeds requested available)
      else
        let isPartial := available.exceeds requested
        let target := if isPartial then .partiallyRefunded else .refunded
        p.requireTransition target
        return ⟨requested, isPartial, target⟩

/-- The sum of all refunds after one more. -/
def refundedAfter (p : Payment) (amount : Amount) : Except PaymentError Amount :=
  match p.refunded with
  | none => .ok amount
  | some previous => checked (previous.add amount)

/-- Pays back an amount, or the whole balance. -/
def refund (p : Payment) (now : Instant) (amount : Option Amount) (reason : Option String) :
    Except PaymentError (RefundPlan × Payment) := do
  let plan ← p.planRefund amount
  let total ← p.refundedAfter plan.amount
  let noted := p.note refundAmountKey plan.amount.formatted
  let noted := match reason with
    | some text => noted.note refundReasonKey text
    | none => noted
  let noted := noted.note refundedAtKey now.toOffsetText
  return (plan, Payment.record
    { noted with
      status := plan.target
      refunded := some total
      refundedAt := some now
      updatedAt := now }
    now (.refunded plan.amount p.transaction plan.isPartial))

end Paydesk.Payment
