import Paydesk.Gateway.Order
import Paydesk.Service.Notice
import Paydesk.Store

/-!
# Workflows

A use case of the service as a tree: each node is one step on the world outside (a read or write of
the store, an order to a provider, an event for a listener, …) and goes on with whatever that step
gives back. The tree itself touches nothing. A handler that says what each step does runs it, and an
interleaving of several use cases is a choice of which tree takes its next step.
-/

namespace Paydesk

/-- What a listener does with an event that it is offered. -/
inductive Delivery where
  | accepted
  | refused (error : PublishError)
  /-- The listener never answers. -/
  | pending
  deriving DecidableEq

/-- A use case that orders refunds from gateways of type `γ`, tells listeners of type `π`, and gives
back an `α`. -/
inductive Workflow (γ π α : Type) where
  | done (a : α)
  | clock (next : Instant → Workflow γ π α)
  | freshId (next : PaymentId → Workflow γ π α)
  | find (id : PaymentId) (next : Except StoreError (Option Payment) → Workflow γ π α)
  | list (query : Store.Query) (next : Except StoreError (List Payment) → Workflow γ π α)
  | save (payment : Payment) (next : Except StoreError Payment → Workflow γ π α)
  | pay (gateway : γ) (order : RefundOrder)
      (next : Except GatewayError RefundReply → Workflow γ π α)
  | offer (listener : π) (event : Event) (next : Delivery → Workflow γ π α)
  | warn (notice : Notice) (next : Workflow γ π α)

namespace Workflow

variable {γ π α β : Type}

/-- Goes on with the result of a use case. -/
def bind : Workflow γ π α → (α → Workflow γ π β) → Workflow γ π β
  | .done a, f => f a
  | .clock next, f => .clock fun time => bind (next time) f
  | .freshId next, f => .freshId fun id => bind (next id) f
  | .find id next, f => .find id fun found => bind (next found) f
  | .list query next, f => .list query fun found => bind (next found) f
  | .save payment next, f => .save payment fun saved => bind (next saved) f
  | .pay gateway order next, f => .pay gateway order fun reply => bind (next reply) f
  | .offer listener event next, f => .offer listener event fun d => bind (next d) f
  | .warn notice next, f => .warn notice (bind next f)

instance : Monad (Workflow γ π) where
  pure := .done
  bind := bind

/-- What each step does to the world outside. -/
structure Handler (γ π : Type) (m : Type → Type) where
  clock : m Instant
  freshId : m PaymentId
  find : PaymentId → m (Except StoreError (Option Payment))
  list : Store.Query → m (Except StoreError (List Payment))
  save : Payment → m (Except StoreError Payment)
  pay : γ → RefundOrder → m (Except GatewayError RefundReply)
  offer : π → Event → m Delivery
  warn : Notice → m Unit

def run {m : Type → Type} [Monad m] (h : Handler γ π m) : Workflow γ π α → m α
  | .done a => Pure.pure a
  | .clock next => h.clock >>= fun time => run h (next time)
  | .freshId next => h.freshId >>= fun id => run h (next id)
  | .find id next => h.find id >>= fun found => run h (next found)
  | .list query next => h.list query >>= fun found => run h (next found)
  | .save payment next => h.save payment >>= fun saved => run h (next saved)
  | .pay gateway order next => h.pay gateway order >>= fun reply => run h (next reply)
  | .offer listener event next => h.offer listener event >>= fun d => run h (next d)
  | .warn notice next => h.warn notice >>= fun _ => run h next

end Workflow

/-- A use case that may fail with a failure of the service. -/
abbrev Task (γ π α : Type) : Type := ExceptT ServiceError (Workflow γ π) α

namespace Task

variable {γ π α : Type}

/-- A step that never fails. -/
def lift (w : Workflow γ π α) : Task γ π α :=
  ExceptT.lift w

/-- A result of a calculation that may have failed. -/
def ofExcept {ε : Type} (failure : ε → ServiceError) (x : Except ε α) : Task γ π α :=
  ExceptT.mk (.done (x.mapError failure))

def clock : Task γ π Instant :=
  lift (.clock .done)

/-- A new name for a payment. -/
def freshId : Task γ π PaymentId :=
  lift (.freshId .done)

def find (id : PaymentId) : Task γ π (Option Payment) :=
  ExceptT.mk (.find id fun found => .done (found.mapError .ofStore))

def list (query : Store.Query) : Task γ π (List Payment) :=
  ExceptT.mk (.list query fun found => .done (found.mapError .ofStore))

def save (p : Payment) : Task γ π Payment :=
  ExceptT.mk (.save p fun saved => .done (saved.mapError .ofStore))

/-- Has a gateway pay money back. -/
def pay (gateway : γ) (order : RefundOrder) : Task γ π RefundReply :=
  ExceptT.mk (.pay gateway order fun reply => .done (reply.mapError .ofGateway))

/-- Tells operators. -/
def warn (notice : Notice) : Task γ π Unit :=
  lift (.warn notice (.done ()))

end Task

end Paydesk
