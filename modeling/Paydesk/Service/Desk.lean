import Paydesk.Gateway.Registry
import Paydesk.Payment.Lifecycle
import Paydesk.Service.Publishing
import Paydesk.Service.Request

/-!
# The service

The use cases on payments. Each loads one payment, checks the command, changes the payment, stores
it and publishes what happened, in that order. A payment of another tenant is as good as none. A
refund orders the money back before it stores anything, and reports every problem in its outcome.
-/

namespace Paydesk

/-- What the service works with: the clients of providers, the listeners of events, and how long it
waits for a listener. -/
structure Desk (γ π : Type) where
  registry : Registry γ
  listeners : List π
  publishTimeoutMillis : Nat

namespace Desk

variable {γ π : Type}

/-! ## Loading and storing -/

/-- The payment of a tenant. -/
def load (tenant : String) (id : PaymentId) : Task γ π Payment := do
  match (← Task.find id).filter fun p => p.tenant == tenant with
  | some p => return p
  | none => throw ⟨.notFound, "Payment " ++ id.toText⟩

/-- Stores a payment and publishes its events. -/
def persist (desk : Desk γ π) (p : Payment) : Task γ π Payment := do
  let saved ← Task.save p
  Task.lift (publishAll desk.listeners desk.publishTimeoutMillis saved.events)
  return saved.commitEvents

/-- Loads a payment, changes it at the present time and stores it. -/
def change (desk : Desk γ π) (tenant : String) (id : PaymentId)
    (command : Payment → Instant → Except PaymentError Payment) : Task γ π Payment := do
  let p ← load tenant id
  let now ← Task.clock
  let changed ← Task.ofExcept .ofPayment (command p now)
  desk.persist changed

/-! ## Commands -/

/-- The valid parts of a request for a new payment. -/
def draft (tenant : String) (r : CreateRequest) : Except PaymentError Payment.Draft := do
  let provider ← checked (Provider.read r.provider)
  let amount ← checked (Amount.ofBinary64 r.amount)
  let currency ← checked (Currency.read r.currency)
  let draft : Payment.Draft :=
    { tenant := tenant
      provider := provider
      amount := amount
      currency := currency
      order := r.order
      reference := r.reference
      metadata := r.metadata }
  draft.check
  return draft

def create (desk : Desk γ π) (tenant : String) (r : CreateRequest) : Task γ π Payment := do
  let draft ← Task.ofExcept .ofPayment (draft tenant r)
  let now ← Task.clock
  let id ← Task.freshId
  desk.persist (Payment.create id now draft)

/-- Hands a payment to its provider. -/
def startProcessing (desk : Desk γ π) (tenant : String) (id : PaymentId) : Task γ π Payment :=
  desk.change tenant id Payment.startProcessing

/-- Notes that the provider has taken the money. -/
def complete (desk : Desk γ π) (tenant : String) (id : PaymentId) (r : CompleteRequest) :
    Task γ π Payment :=
  desk.change tenant id fun p now => p.complete now r.transaction r.metadata

/-- Notes that the provider has refused the payment. -/
def fail (desk : Desk γ π) (tenant : String) (id : PaymentId) (r : FailRequest) :
    Task γ π Payment :=
  desk.change tenant id fun p now => p.fail now r.reason r.metadata

def cancel (desk : Desk γ π) (tenant : String) (id : PaymentId) (r : CancelRequest) :
    Task γ π Payment :=
  desk.change tenant id fun p now => p.cancel now r.reason

/-! ## Queries -/

def get (tenant : String) (id : PaymentId) : Task γ π Payment :=
  load tenant id

/-- The length of a list for which none is asked. -/
def defaultPageSize : Nat := 50

/-- The largest length of a list. -/
def maxPageSize : Nat := 500

/-- A filter that is given as text. -/
def readFilter {α : Type} (read : String → Except Invalid α) (text : Option String) :
    Except PaymentError (Option α) :=
  match text with
  | none => .ok none
  | some s => (checked (read s)).map some

/-- The query to ask the store, which leaves the other filters to do. -/
def listQuery (tenant : String) : Option Status → Option Provider → Store.Query
  | some status, _ => .tenantStatus tenant status
  | none, some provider => .tenantProvider tenant provider
  | none, none => .tenant tenant

/-- The filters that the query of the store leaves. -/
def passes (provider : Option Provider) (order : Option String) (p : Payment) : Bool :=
  (provider.all fun wanted => p.provider == wanted) && (order.all fun wanted => p.order == wanted)

/-- The part of a list that a request asks for. -/
def window (r : ListRequest) (payments : List Payment) : List Payment :=
  (payments.drop (r.offset.getD 0)).take (min (r.limit.getD defaultPageSize) maxPageSize)

/-- The payments of a tenant that pass the filters, the newest first. -/
def list (tenant : String) (r : ListRequest) : Task γ π (List Payment) := do
  let status ← Task.ofExcept .ofPayment (readFilter Status.read r.status)
  let provider ← Task.ofExcept .ofPayment (readFilter Provider.read r.provider)
  let found ← Task.list (listQuery tenant status provider)
  let kept := (found.filter (passes provider r.order)).mergeSort Store.newestFirst
  return window r kept

/-! ## Refunds -/

/-- The words for a provider's refusal without words. -/
def defaultDecline : String := "Refund declined by provider"

/-- The state of a payment permits a refund. -/
def requireRefundable (p : Payment) : Except ServiceError Unit :=
  if p.status.isRefundable then .ok ()
  else .error ⟨.illegalTransition, "Payment in status " ++ p.status.code ++ " cannot be refunded"⟩

/-- The amount that a request asks for, if it names one. -/
def requestedAmount (amount : Option Binary64) : Except PaymentError (Option Amount) :=
  match amount with
  | none => .ok none
  | some x => (checked (Amount.ofBinary64 x)).map some

/-- The gateway for the refunds of a payment. -/
def gateway (desk : Desk γ π) (p : Payment) : Except GatewayError γ := do
  let client ← desk.registry.resolve p.tenant p.provider
  match client.gateway with
  | some gateway => return gateway
  | none => .error (.unsupported p.provider)

/-- Orders a refund, and stores it if the provider approves. -/
def tryRefund (desk : Desk γ π) (r : RefundRequest) : Task γ π RefundOutcome := do
  let id ← Task.ofExcept .ofInvalid (PaymentId.read r.payment)
  let p ← load r.tenant id
  Task.ofExcept (fun e => e) (requireRefundable p)
  let requested ← Task.ofExcept .ofPayment (requestedAmount r.amount)
  let plan ← Task.ofExcept .ofPayment (p.planRefund requested)
  let gateway ← Task.ofExcept .ofGateway (desk.gateway p)
  let reply ← Task.pay gateway
    { payment := id
      transaction := p.transaction
      amount := plan.amount
      currency := p.currency
      reason := r.reason }
  if reply.isApproved then
    let now ← Task.clock
    let (applied, refunded) ← Task.ofExcept .ofPayment (p.refund now (some plan.amount) r.reason)
    let stored ← desk.persist refunded
    return .success id stored.status applied.amount applied.isPartial reply.raw
  else
    let text := reply.error.getD defaultDecline
    Task.warn (.refundDeclined p.provider text)
    return .failure id.toText text

/-- Refunds a payment. Every problem is told in the outcome. -/
def refund (desk : Desk γ π) (r : RefundRequest) : Workflow γ π RefundOutcome := do
  match ← (desk.tryRefund r).run with
  | .ok outcome => return outcome
  | .error e => .warn (.refundFailed e) (.done (.failure r.payment e.message))

end Desk

end Paydesk
