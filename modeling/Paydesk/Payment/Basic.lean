import Paydesk.Error
import Paydesk.Metadata
import Paydesk.Payment.Event

/-!
# Payments

A payment as it is stored, and the payment that commands work on: the stored part with the events
that wait to be published. A restored payment has no events, and taking the stored part of it gives
back what it was restored from.
-/

namespace Paydesk

/-- Everything that is stored of a payment. -/
structure Snapshot where
  id : PaymentId
  tenant : String
  provider : Provider
  amount : Amount
  currency : Currency
  status : Status
  order : String
  transaction : Option String
  reference : Option String
  metadata : Metadata
  refunded : Option Amount
  reason : Option String
  createdAt : Instant
  updatedAt : Instant
  completedAt : Option Instant
  failedAt : Option Instant
  refundedAt : Option Instant
  version : Nat
  deriving BEq

/-- A payment with the events that wait to be published. -/
structure Payment extends Snapshot where
  events : List Event

namespace Payment

/-- The payment of a stored one, without events. -/
def restore (s : Snapshot) : Payment :=
  { s with events := [] }

/-- The part of a payment that is stored. -/
def snapshot (p : Payment) : Snapshot :=
  p.toSnapshot

@[simp] theorem snapshot_restore (s : Snapshot) : (restore s).snapshot = s := rfl

/-- An event of the payment. -/
def eventOf (p : Payment) (now : Instant) (change : Change) : Event where
  payment := p.id
  tenant := p.tenant
  provider := p.provider
  amount := p.amount
  currency := p.currency
  order := p.order
  occurredAt := now
  change := change

/-- Adds an event to those that wait. -/
def record (p : Payment) (now : Instant) (change : Change) : Payment :=
  { p with events := p.events ++ [p.eventOf now change] }

/-- What a caller says of a new payment. -/
structure Draft where
  tenant : String
  provider : Provider
  amount : Amount
  currency : Currency
  order : String
  reference : Option String
  metadata : Option Metadata

/-- The rules for a new payment: tenant and order are named. -/
def Draft.check (d : Draft) : Except PaymentError Unit :=
  if Text.isBlankText d.tenant then .error (.invalid .blankTenant)
  else if Text.isBlankText d.order then .error (.invalid .blankOrder)
  else .ok ()

/-- A new pending payment, not stored yet, with the event that it was made. -/
def create (id : PaymentId) (now : Instant) (d : Draft) : Payment :=
  record
    { id := id
      tenant := d.tenant
      provider := d.provider
      amount := d.amount
      currency := d.currency
      status := .pending
      order := d.order
      transaction := none
      reference := d.reference
      metadata := d.metadata.getD .empty
      refunded := none
      reason := none
      createdAt := now
      updatedAt := now
      completedAt := none
      failedAt := none
      refundedAt := none
      version := 0
      events := [] }
    now .initiated

/-- The payment without waiting events. -/
def commitEvents (p : Payment) : Payment :=
  { p with events := [] }

def withVersion (p : Payment) (version : Nat) : Payment :=
  { p with version := version }

end Payment

end Paydesk
