import Paydesk.Proofs.Payment.Balance
import Paydesk.Proofs.Store.Versions
import Paydesk.Service.Desk

/-!
# The steps of the use cases

What a call of the service may do to the world, step by step (`UseCase.Step`): it draws a name or
loads one payment, has a refund paid back before it saves one, saves at most once what the command
gives for the payment that it has loaded, and tells listeners only after that save was accepted.
Every use case keeps to it (`UseCase.keeps`), and answers with a success exactly if its save was
accepted (`Stage.Fits`).
-/

namespace Paydesk

variable {γ π : Type}

/-- A call of the service that changes a payment. -/
inductive UseCase where
  | create (tenant : String) (request : CreateRequest)
  | startProcessing (tenant : String) (id : PaymentId)
  | complete (tenant : String) (id : PaymentId) (request : CompleteRequest)
  | fail (tenant : String) (id : PaymentId) (request : FailRequest)
  | cancel (tenant : String) (id : PaymentId) (request : CancelRequest)
  | refund (request : RefundRequest)

/-- What a call of the service gives back. -/
inductive Answer where
  | payment (result : Except ServiceError Payment)
  | refund (outcome : RefundOutcome)

namespace UseCase

def workflow (desk : Desk γ π) : UseCase → Workflow γ π Answer
  | .create tenant r => (desk.create tenant r).run.bind fun x => .done (.payment x)
  | .startProcessing tenant id => (desk.startProcessing tenant id).run.bind fun x =>
      .done (.payment x)
  | .complete tenant id r => (desk.complete tenant id r).run.bind fun x => .done (.payment x)
  | .fail tenant id r => (desk.fail tenant id r).run.bind fun x => .done (.payment x)
  | .cancel tenant id r => (desk.cancel tenant id r).run.bind fun x => .done (.payment x)
  | .refund r => (desk.refund r).bind fun outcome => .done (.refund outcome)

/-- The stored payment that the call is about. -/
def target : UseCase → Option PaymentId
  | .create _ _ => none
  | .startProcessing _ id => some id
  | .complete _ id _ => some id
  | .fail _ id _ => some id
  | .cancel _ id _ => some id
  | .refund r => (PaymentId.read r.payment).toOption

/-! ## Stages and steps -/

/-- How far a use case is. -/
inductive Stage where
  /-- Nothing but the stored payment that the call is about, if any, is known. -/
  | idle (target : Option PaymentId)
  | named (id : PaymentId)
  /-- A payment was loaded. -/
  | held (p : Payment)
  /-- A provider has approved a refund of the payment that was loaded. -/
  | approved (p : Payment) (plan : Payment.RefundPlan)
  /-- The save was accepted; the payment has its new version and still its events. -/
  | stored (q : Payment) (plan : Option Payment.RefundPlan)
  | refused (q : Payment) (why : Conflict)
  /-- Nothing was found. -/
  | missed

/-- The stage after a save. -/
def Stage.saved (q : Payment) (plan : Option Payment.RefundPlan) : Except Conflict Nat → Stage
  | .ok version => .stored (q.withVersion version) plan
  | .error why => .refused q why

theorem Stage.eq_stored_of_saved {q q' : Payment} {plan plan' : Option Payment.RefundPlan}
    {version : Except Conflict Nat} (h : Stage.saved q plan version = .stored q' plan') :
    ∃ v, version = .ok v ∧ q' = q.withVersion v := by
  cases version with
  | ok v =>
    cases h
    exact ⟨v, rfl, rfl⟩
  | error why => cases h

/-- Nothing was stored, and no approved refund waits to be stored. -/
def Stage.Free : Stage → Prop
  | .approved _ _ => False
  | .stored _ _ => False
  | _ => True

/-- The steps that use cases may take. -/
inductive Step : Protocol γ π Stage
  | clock {s : Stage} {time : Instant} : Step s (.clock time) s
  | warn {s : Stage} {notice : Notice} : Step s (.warn notice) s
  | draw {id : PaymentId} : Step (.idle none) (.freshId id) (.named id)
  | miss {id : PaymentId} : Step (.idle (some id)) (.find id none) .missed
  | load {p : Payment} (quiet : p.events = []) :
      Step (.idle (some p.id)) (.find p.id (some p)) (.held p)
  | create {id : PaymentId} {now : Instant} {draft : Payment.Draft}
      {version : Except Conflict Nat} :
      Step (.named id) (.save (Payment.create id now draft) version)
        (.saved (Payment.create id now draft) none version)
  | change {p q : Payment} {c : Payment.Call} {version : Except Conflict Nat}
      (gives : c.Gives p q none) : Step (.held p) (.save q version) (.saved q none version)
  | decline {p : Payment} {gateway : γ} {order : RefundOrder}
      {reply : Except GatewayError RefundReply}
      (refused : ∀ r, reply = .ok r → r.isApproved = false) :
      Step (.held p) (.pay gateway order reply) (.held p)
  | approve {p : Payment} {plan : Payment.RefundPlan} {gateway : γ} {order : RefundOrder}
      {reply : RefundReply} (planned : p.planRefund (some plan.amount) = .ok plan)
      (payment : order.payment = p.id) (amount : order.amount = plan.amount)
      (given : reply.isApproved = true) :
      Step (.held p) (.pay gateway order (.ok reply)) (.approved p plan)
  | refund {p q : Payment} {plan : Payment.RefundPlan} {now : Instant} {reason : Option String}
      {version : Except Conflict Nat}
      (gives : Payment.Call.Gives p (.refund now (some plan.amount) reason) q (some plan)) :
      Step (.approved p plan) (.save q version) (.saved q (some plan) version)
  | offer {q : Payment} {plan : Option Payment.RefundPlan} {listener : π} {event : Event}
      {delivery : Delivery} :
      Step (.stored q plan) (.offer listener event delivery) (.stored q plan)

/-- The answer that belongs to a stage: a success tells what was stored, and a failure that nothing
was and nothing will be. -/
inductive Stage.Fits : Stage → Answer → Prop
  | payment {q : Payment} : Fits (.stored q none) (.payment (.ok q.commitEvents))
  | refund {q : Payment} {plan : Payment.RefundPlan} {raw : Option Json} :
      Fits (.stored q (some plan))
        (.refund (.success q.id q.status plan.amount plan.isPartial raw))
  | error {s : Stage} {e : ServiceError} (free : s.Free) : Fits s (.payment (.error e))
  | failure {s : Stage} {payment text : String} (free : s.Free) :
      Fits s (.refund (.failure payment text))

theorem Stage.Fits.refund_cases {s : Stage} {answer : Answer} (h : s.Fits answer)
    {outcome : RefundOutcome} (hanswer : answer = .refund outcome) :
    (∃ q plan raw, s = .stored q (some plan) ∧
      outcome = .success q.id q.status plan.amount plan.isPartial raw) ∨
    (s.Free ∧ ∃ payment text, outcome = .failure payment text) := by
  cases h with
  | payment => cases hanswer
  | error _ => cases hanswer
  | refund =>
    injection hanswer with houtcome
    exact .inl ⟨_, _, _, rfl, houtcome.symm⟩
  | failure hfree =>
    injection hanswer with houtcome
    exact .inr ⟨hfree, _, _, houtcome.symm⟩

theorem Stage.Fits.of_refunded {s : Stage} {answer : Answer} (h : s.Fits answer) {q : Payment}
    {plan : Payment.RefundPlan} (hs : s = .stored q (some plan)) :
    ∃ raw, answer = .refund (.success q.id q.status plan.amount plan.isPartial raw) := by
  cases h with
  | payment => cases hs
  | refund =>
    cases hs
    exact ⟨_, rfl⟩
  | error hfree =>
    subst hs
    exact hfree.elim
  | failure hfree =>
    subst hs
    exact hfree.elim

theorem fits_of_done {w : Workflow γ π Answer} {s : Stage} {answer : Answer}
    (h : w.Keeps Step Stage.Fits s) (hw : w = .done answer) : s.Fits answer :=
  h.of_done hw

/-! ## A use case as one that holds one payment -/

/-- What a use case holds. -/
def Stage.hold : Stage → Hold
  | .idle _ => .nothing
  | .named id => .named id
  | .held p => .copy p
  | .approved p _ => .copy p
  | .stored _ _ => .spent
  | .refused _ _ => .spent
  | .missed => .spent

theorem Stage.hold_saved (q : Payment) (plan : Option Payment.RefundPlan)
    (version : Except Conflict Nat) : (Stage.saved q plan version).hold = .spent := by
  cases version <;> rfl

theorem Step.hold {s t : Stage} {a : Act γ π} (h : Step s a t) : Hold.Step s.hold a t.hold := by
  cases h with
  | clock => exact .clock
  | warn => exact .warn
  | draw => exact .draw
  | miss => exact .miss
  | load _ => exact .load
  | create =>
    rw [Stage.hold_saved]
    exact .create rfl rfl
  | change hgives =>
    rw [Stage.hold_saved]
    exact .change hgives.sameIdentity.id hgives.sameIdentity.version
  | decline _ => exact .pay
  | approve _ _ _ _ => exact .pay
  | refund hgives =>
    rw [Stage.hold_saved]
    exact .change hgives.sameIdentity.id hgives.sameIdentity.version
  | offer => exact .offer

end UseCase

end Paydesk
