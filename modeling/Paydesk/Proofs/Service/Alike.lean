import Paydesk.Proofs.Service.UseCase

/-!
# Use cases that are alike

Two use cases are alike if they do the same to the world and give the same result, apart from what
they offer to listeners and write down for operators, and whatever is answered to offers
(`Workflow.Alike`). What becomes of an event that is published has no influence on what follows
(`alike_publishAll`), so a call of the service is alike to the same call with any other listeners
(`UseCase.alike`).
-/

namespace Paydesk

variable {γ π α β : Type}

/-! ## Use cases that are alike -/

namespace Workflow

/-- The two use cases do the same and have the same result, apart from offers and warnings, and
whatever is answered to offers. -/
inductive Alike : Workflow γ π α → Workflow γ π α → Prop
  | done (a : α) : Alike (.done a) (.done a)
  | clock {next next' : Instant → Workflow γ π α} (h : ∀ time, Alike (next time) (next' time)) :
      Alike (.clock next) (.clock next')
  | freshId {next next' : PaymentId → Workflow γ π α} (h : ∀ id, Alike (next id) (next' id)) :
      Alike (.freshId next) (.freshId next')
  | find {id : PaymentId} {next next' : Except StoreError (Option Payment) → Workflow γ π α}
      (h : ∀ found, Alike (next found) (next' found)) : Alike (.find id next) (.find id next')
  | list {query : Store.Query} {next next' : Except StoreError (List Payment) → Workflow γ π α}
      (h : ∀ found, Alike (next found) (next' found)) : Alike (.list query next) (.list query next')
  | save {p : Payment} {next next' : Except StoreError Payment → Workflow γ π α}
      (h : ∀ saved, Alike (next saved) (next' saved)) : Alike (.save p next) (.save p next')
  | pay {gateway : γ} {order : RefundOrder}
      {next next' : Except GatewayError RefundReply → Workflow γ π α}
      (h : ∀ reply, Alike (next reply) (next' reply)) :
      Alike (.pay gateway order next) (.pay gateway order next')
  | offerLeft {listener : π} {event : Event} {next : Delivery → Workflow γ π α}
      {w : Workflow γ π α} (h : ∀ delivery, Alike (next delivery) w) :
      Alike (.offer listener event next) w
  | offerRight {listener : π} {event : Event} {next : Delivery → Workflow γ π α}
      {w : Workflow γ π α} (h : ∀ delivery, Alike w (next delivery)) :
      Alike w (.offer listener event next)
  | warnLeft {notice : Notice} {next w : Workflow γ π α} (h : Alike next w) :
      Alike (.warn notice next) w
  | warnRight {notice : Notice} {next w : Workflow γ π α} (h : Alike w next) :
      Alike w (.warn notice next)

namespace Alike

variable {w w' : Workflow γ π α}

theorem symm (h : Alike w w') : Alike w' w := by
  induction h with
  | done a => exact .done a
  | clock _ ih => exact .clock ih
  | freshId _ ih => exact .freshId ih
  | find _ ih => exact .find ih
  | list _ ih => exact .list ih
  | save _ ih => exact .save ih
  | pay _ ih => exact .pay ih
  | offerLeft _ ih => exact .offerRight ih
  | offerRight _ ih => exact .offerLeft ih
  | warnLeft _ ih => exact .warnRight ih
  | warnRight _ ih => exact .warnLeft ih

theorem bind {f f' : α → Workflow γ π β} (h : Alike w w') (hrest : ∀ a, Alike (f a) (f' a)) :
    Alike (w.bind f) (w'.bind f') := by
  induction h with
  | done a => exact hrest a
  | clock _ ih => exact .clock ih
  | freshId _ ih => exact .freshId ih
  | find _ ih => exact .find ih
  | list _ ih => exact .list ih
  | save _ ih => exact .save ih
  | pay _ ih => exact .pay ih
  | offerLeft _ ih => exact .offerLeft ih
  | offerRight _ ih => exact .offerRight ih
  | warnLeft _ ih => exact .warnLeft ih
  | warnRight _ ih => exact .warnRight ih

theorem eq_of_done {a b : α} (h : Alike (.done a : Workflow γ π α) (.done b)) : a = b := by
  cases h
  rfl

theorem of_done {a : α} (h : Alike w (.done a)) (h' : Alike (.done a) w') : Alike w w' := by
  generalize hend : Workflow.done a = e at h
  induction h with
  | done b => exact hend ▸ h'
  | offerLeft _ ih => exact .offerLeft fun delivery => ih delivery hend
  | warnLeft _ ih => exact .warnLeft (ih hend)
  | _ => cases hend

end Alike

end Workflow

open Workflow (Alike)

/-! ### Publishing -/

/-- Offers to listeners can be left out if what follows does not depend on their outcome. -/
theorem alike_offerAll {event : Event} {first : Option PublishError} {listeners : List π}
    {f : Option (Except PublishError Unit) → Workflow γ π α} {w : Workflow γ π α}
    (h : ∀ outcome, Alike (f outcome) w) : Alike ((offerAll event first listeners).bind f) w := by
  induction listeners generalizing first with
  | nil => exact h _
  | cons listener rest ih =>
    refine .offerLeft fun delivery => ?_
    cases delivery with
    | accepted => exact ih
    | refused error => exact .warnLeft ih
    | pending => exact h none

theorem alike_publish (listeners : List π) (timeoutMillis : Nat) (event : Event) :
    Alike (publish listeners timeoutMillis event : Workflow γ π Unit) (.done ()) := by
  refine alike_offerAll fun outcome => ?_
  rcases outcome with _ | _ | _
  · exact .warnLeft (.done ())
  · exact .warnLeft (.done ())
  · exact .done ()

theorem alike_publishAll (listeners : List π) (timeoutMillis : Nat) (events : List Event) :
    Alike (publishAll listeners timeoutMillis events : Workflow γ π Unit) (.done ()) := by
  induction events with
  | nil => exact .done ()
  | cons event rest ih => exact (alike_publish listeners timeoutMillis event).bind fun _ => ih

/-! ### Tasks -/

namespace Task

/-- The two tasks do the same and have the same result or failure. -/
structure Alike (x y : Task γ π α) : Prop where
  run : Workflow.Alike x.run y.run

theorem alike_pure (a : α) : Alike (pure a : Task γ π α) (pure a) :=
  ⟨.done _⟩

theorem alike_throw (e : ServiceError) : Alike (throw e : Task γ π α) (throw e) :=
  ⟨.done _⟩

theorem alike_bind {x y : Task γ π α} {f g : α → Task γ π β} (h : Alike x y)
    (hrest : ∀ a, Alike (f a) (g a)) : Alike (x >>= f) (y >>= g) := by
  refine ⟨h.run.bind fun r => ?_⟩
  cases r with
  | ok a => exact (hrest a).run
  | error e => exact .done _

theorem alike_ofExcept {ε : Type} (failure : ε → ServiceError) (x : Except ε α) :
    Alike (ofExcept failure x : Task γ π α) (ofExcept failure x) :=
  ⟨.done _⟩

theorem alike_clock : Alike (clock : Task γ π Instant) clock :=
  ⟨.clock fun _ => .done _⟩

theorem alike_freshId : Alike (freshId : Task γ π PaymentId) freshId :=
  ⟨.freshId fun _ => .done _⟩

theorem alike_find (id : PaymentId) : Alike (find id : Task γ π (Option Payment)) (find id) :=
  ⟨.find fun _ => .done _⟩

theorem alike_save (p : Payment) : Alike (save p : Task γ π Payment) (save p) :=
  ⟨.save fun _ => .done _⟩

theorem alike_pay (gateway : γ) (order : RefundOrder) :
    Alike (pay gateway order : Task γ π RefundReply) (pay gateway order) :=
  ⟨.pay fun _ => .done _⟩

theorem alike_warn (notice : Notice) : Alike (warn notice : Task γ π Unit) (warn notice) :=
  ⟨.warnLeft (.warnRight (.done _))⟩

theorem alike_lift {v w : Workflow γ π α} (h : Workflow.Alike v w) :
    Alike (lift v : Task γ π α) (lift w) :=
  ⟨h.bind fun _ => .done _⟩

end Task

/-! ### Calls -/

namespace Desk

variable (desk desk' : Desk γ π)

theorem alike_load (tenant : String) (id : PaymentId) :
    Task.Alike (load tenant id : Task γ π Payment) (load tenant id) := by
  refine Task.alike_bind (Task.alike_find id) fun found => ?_
  split
  · exact Task.alike_pure _
  · exact Task.alike_throw _

theorem alike_persist (p : Payment) : Task.Alike (desk.persist p) (desk'.persist p) := by
  refine Task.alike_bind (Task.alike_save p) fun saved => ?_
  refine Task.alike_bind (Task.alike_lift ?_) fun _ => Task.alike_pure _
  exact (alike_publishAll _ _ _).of_done (alike_publishAll _ _ _).symm

theorem alike_create (tenant : String) (r : CreateRequest) :
    Task.Alike (desk.create tenant r) (desk'.create tenant r) := by
  refine Task.alike_bind (Task.alike_ofExcept _ _) fun draft => ?_
  refine Task.alike_bind Task.alike_clock fun now => ?_
  exact Task.alike_bind Task.alike_freshId fun id => alike_persist desk desk' _

theorem alike_change (tenant : String) (id : PaymentId)
    (command : Payment → Instant → Except PaymentError Payment) :
    Task.Alike (desk.change tenant id command) (desk'.change tenant id command) := by
  refine Task.alike_bind (alike_load tenant id) fun p => ?_
  refine Task.alike_bind Task.alike_clock fun now => ?_
  exact Task.alike_bind (Task.alike_ofExcept _ _) fun q => alike_persist desk desk' q

variable {desk desk'}

theorem alike_tryRefund (h : desk'.registry = desk.registry) (r : RefundRequest) :
    Task.Alike (desk.tryRefund r) (desk'.tryRefund r) := by
  have hgateway : ∀ p, desk'.gateway p = desk.gateway p := fun p => by
    unfold Desk.gateway
    rw [h]
  unfold Desk.tryRefund
  refine Task.alike_bind (Task.alike_ofExcept _ _) fun id => ?_
  refine Task.alike_bind (alike_load _ _) fun p => ?_
  refine Task.alike_bind (Task.alike_ofExcept _ _) fun _ => ?_
  refine Task.alike_bind (Task.alike_ofExcept _ _) fun requested => ?_
  refine Task.alike_bind (Task.alike_ofExcept _ _) fun plan => ?_
  rw [hgateway]
  refine Task.alike_bind (Task.alike_ofExcept _ _) fun gateway => ?_
  refine Task.alike_bind (Task.alike_pay _ _) fun reply => ?_
  split
  · refine Task.alike_bind Task.alike_clock fun now => ?_
    refine Task.alike_bind (Task.alike_ofExcept _ _) fun refunded => ?_
    exact Task.alike_bind (alike_persist desk desk' _) fun stored => Task.alike_pure _
  · exact Task.alike_bind (Task.alike_warn _) fun _ => Task.alike_pure _

theorem alike_report {x y : Task γ π RefundOutcome} (h : Task.Alike x y) (payment : String) :
    let report : Except ServiceError RefundOutcome → Workflow γ π RefundOutcome := fun
      | .ok outcome => .done outcome
      | .error e => .warn (.refundFailed e) (.done (.failure payment e.message))
    Alike (x.run.bind report) (y.run.bind report) := by
  refine h.run.bind fun result => ?_
  cases result with
  | ok outcome => exact .done _
  | error e => exact .warnLeft (.warnRight (.done _))

theorem alike_refund (h : desk'.registry = desk.registry) (r : RefundRequest) :
    Alike (desk.refund r) (desk'.refund r) :=
  alike_report (alike_tryRefund h r) r.payment

end Desk

theorem Workflow.Alike.answer {w w' : Workflow γ π RefundOutcome} (h : Alike w w') :
    Alike (w.bind fun outcome => .done (Answer.refund outcome))
      (w'.bind fun outcome => .done (Answer.refund outcome)) :=
  h.bind fun _ => .done _

theorem Task.Alike.answer {x y : Task γ π Payment} (h : Task.Alike x y) :
    Workflow.Alike (x.run.bind fun result => .done (Answer.payment result))
      (y.run.bind fun result => .done (Answer.payment result)) :=
  h.run.bind fun _ => .done _

/-- A call does the same with other listeners. -/
theorem UseCase.alike {desk desk' : Desk γ π} (h : desk'.registry = desk.registry) (u : UseCase) :
    Alike (u.workflow desk) (u.workflow desk') := by
  cases u with
  | create tenant r => exact (Desk.alike_create desk desk' tenant r).answer
  | startProcessing tenant id => exact (Desk.alike_change desk desk' tenant id _).answer
  | complete tenant id r => exact (Desk.alike_change desk desk' tenant id _).answer
  | fail tenant id r => exact (Desk.alike_change desk desk' tenant id _).answer
  | cancel tenant id r => exact (Desk.alike_change desk desk' tenant id _).answer
  | refund r => exact (Desk.alike_refund h r).answer

end Paydesk
