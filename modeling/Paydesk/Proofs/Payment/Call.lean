import Paydesk.Payment.Lifecycle
import Mathlib.Logic.Basic

/-!
# Calls on a payment

Everything that can be done to a payment in a caller's hands, as data (`Call`), and what each call
gives. A command that succeeds is read back into the state it started from and the payment it gives
(`startProcessing_ok`, `complete_ok`, `fail_ok`, `cancel_ok`, `refund_ok`, and for calls
`Call.gives_of_run`); no later proof opens a command again. No call touches what a payment is
(`Call.Gives.sameIdentity`): its name, its owner, the amount, the version.
-/

namespace Paydesk

/-! ## The graph of states -/

namespace Status

theorem allows_processing {s : Status} : s.allows .processing = true ↔ s = .pending := by
  cases s <;> decide

theorem allows_completed {s : Status} : s.allows .completed = true ↔ s = .processing := by
  cases s <;> decide

theorem allows_failed {s : Status} : s.allows .failed = true ↔ s = .processing := by
  cases s <;> decide

theorem allows_cancelled {s : Status} :
    s.allows .cancelled = true ↔ s = .pending ∨ s = .processing := by
  cases s <;> decide

theorem allows_refunded {s : Status} :
    s.allows .refunded = true ↔ s = .completed ∨ s = .partiallyRefunded := by
  cases s <;> decide

theorem allows_partiallyRefunded {s : Status} :
    s.allows .partiallyRefunded = true ↔ s = .completed := by
  cases s <;> decide

end Status

namespace Payment

/-! ## Commands that succeed -/

theorem requireTransition_bind_eq_ok {p : Payment} {target : Status} {α : Type}
    {f : Unit → Except PaymentError α} {a : α} :
    (p.requireTransition target >>= f) = .ok a ↔ p.status.allows target = true ∧ f () = .ok a := by
  unfold requireTransition
  by_cases h : p.status.allows target = true
  · rw [if_pos h]
    exact ⟨fun hf => ⟨h, hf⟩, fun hf => hf.2⟩
  · rw [if_neg h]
    constructor
    · intro hf
      simp [bind, Except.bind] at hf
    · exact fun hf => absurd hf.1 h

theorem startProcessing_ok {p q : Payment} {now : Instant} (h : p.startProcessing now = .ok q) :
    p.status = .pending ∧ q = { p with status := .processing, updatedAt := now } := by
  obtain ⟨hstatus, hq⟩ := requireTransition_bind_eq_ok.1 h
  exact ⟨Status.allows_processing.1 hstatus, (Except.ok.inj hq).symm⟩

theorem complete_ok {p q : Payment} {now : Instant} {transaction : String}
    {data : Option Metadata} (h : p.complete now transaction data = .ok q) :
    p.status = .processing ∧ Text.isBlankText transaction = false ∧
      q = Payment.record
        { (p.annotate data).note completedAtKey now.toOffsetText with
          status := .completed
          transaction := some transaction
          completedAt := some now
          updatedAt := now }
        now (.completed transaction) := by
  obtain ⟨hstatus, hq⟩ := requireTransition_bind_eq_ok.1 h
  split at hq
  · simp at hq
  · rename_i hblank
    exact ⟨Status.allows_completed.1 hstatus, by simpa using hblank, (Except.ok.inj hq).symm⟩

theorem fail_ok {p q : Payment} {now : Instant} {reason : String} {data : Option Metadata}
    (h : p.fail now reason data = .ok q) :
    p.status = .processing ∧
      q = Payment.record
        { (p.annotate data).note failedAtKey now.toOffsetText with
          status := .failed
          reason := some reason
          failedAt := some now
          updatedAt := now }
        now (.failed reason) := by
  obtain ⟨hstatus, hq⟩ := requireTransition_bind_eq_ok.1 h
  exact ⟨Status.allows_failed.1 hstatus, (Except.ok.inj hq).symm⟩

theorem cancel_ok {p q : Payment} {now : Instant} {reason : Option String}
    (h : p.cancel now reason = .ok q) :
    (p.status = .pending ∨ p.status = .processing) ∧
      q = { p.note cancellationReasonKey (reason.getD defaultCancelReason) with
        status := .cancelled
        reason := some (reason.getD defaultCancelReason)
        updatedAt := now } := by
  obtain ⟨hstatus, hq⟩ := requireTransition_bind_eq_ok.1 h
  exact ⟨Status.allows_cancelled.1 hstatus, (Except.ok.inj hq).symm⟩

/-- The metadata after a refund. -/
def refundMetadata (p : Payment) (now : Instant) (amount : Amount) (reason : Option String) :
    Metadata :=
  let noted := p.metadata.write refundAmountKey amount.formatted
  let reasoned := match reason with
    | some text => noted.write refundReasonKey text
    | none => noted
  reasoned.write refundedAtKey now.toOffsetText

theorem refund_ok {p q : Payment} {now : Instant} {amount : Option Amount}
    {reason : Option String} {plan : RefundPlan}
    (h : p.refund now amount reason = .ok (plan, q)) :
    p.planRefund amount = .ok plan ∧
      ∃ total, p.refundedAfter plan.amount = .ok total ∧
        q = Payment.record
          { p with
            metadata := p.refundMetadata now plan.amount reason
            status := plan.target
            refunded := some total
            refundedAt := some now
            updatedAt := now }
          now (.refunded plan.amount p.transaction plan.isPartial) := by
  unfold refund at h
  cases hplan : p.planRefund amount with
  | error e => simp [hplan, bind, Except.bind] at h
  | ok plan' =>
    cases htotal : p.refundedAfter plan'.amount with
    | error e => simp [hplan, htotal, bind, Except.bind] at h
    | ok total =>
      simp only [hplan, htotal, bind, Except.bind, pure, Except.pure, Except.ok.injEq,
        Prod.mk.injEq] at h
      obtain ⟨rfl, rfl⟩ := h
      refine ⟨rfl, total, htotal, ?_⟩
      cases reason <;> rfl

/-! ## Calls -/

/-- Something that a caller does to a payment in his hands. -/
inductive Call where
  | startProcessing (now : Instant)
  | complete (now : Instant) (transaction : String) (data : Option Metadata)
  | fail (now : Instant) (reason : String) (data : Option Metadata)
  | cancel (now : Instant) (reason : Option String)
  | refund (now : Instant) (amount : Option Amount) (reason : Option String)
  | updateMetadata (now : Instant) (data : Metadata)
  /-- The waiting events are taken or dropped. -/
  | commitEvents
  /-- The payment is stored as a snapshot and restored from it. -/
  | reload

/-- What a call gives: the payment after it, and the plan of a refund. -/
def Call.run (p : Payment) : Call → Except PaymentError (Payment × Option RefundPlan)
  | .startProcessing now => (p.startProcessing now).map fun q => (q, none)
  | .complete now transaction data => (p.complete now transaction data).map fun q => (q, none)
  | .fail now reason data => (p.fail now reason data).map fun q => (q, none)
  | .cancel now reason => (p.cancel now reason).map fun q => (q, none)
  | .refund now amount reason => (p.refund now amount reason).map fun r => (r.2, some r.1)
  | .updateMetadata now data => .ok (p.updateMetadata now data, none)
  | .commitEvents => .ok (p.commitEvents, none)
  | .reload => .ok (restore p.snapshot, none)

/-- The payment after a call, which leaves it as it was if it fails. -/
def after (p : Payment) (c : Call) : Payment :=
  match c.run p with
  | .ok (q, _) => q
  | .error _ => p

def afterAll (p : Payment) (calls : List Call) : Payment :=
  calls.foldl after p

/-- The calls that succeed, by what they find and what they give. -/
inductive Call.Gives (p : Payment) : Call → Payment → Option RefundPlan → Prop
  | startProcessing {now : Instant} (status : p.status = .pending) :
      Gives p (.startProcessing now) { p with status := .processing, updatedAt := now } none
  | complete {now : Instant} {transaction : String} {data : Option Metadata}
      (status : p.status = .processing) (named : Text.isBlankText transaction = false) :
      Gives p (.complete now transaction data)
        (Payment.record
          { (p.annotate data).note completedAtKey now.toOffsetText with
            status := .completed
            transaction := some transaction
            completedAt := some now
            updatedAt := now }
          now (.completed transaction)) none
  | fail {now : Instant} {reason : String} {data : Option Metadata}
      (status : p.status = .processing) :
      Gives p (.fail now reason data)
        (Payment.record
          { (p.annotate data).note failedAtKey now.toOffsetText with
            status := .failed
            reason := some reason
            failedAt := some now
            updatedAt := now }
          now (.failed reason)) none
  | cancel {now : Instant} {reason : Option String}
      (status : p.status = .pending ∨ p.status = .processing) :
      Gives p (.cancel now reason)
        { p.note cancellationReasonKey (reason.getD defaultCancelReason) with
          status := .cancelled
          reason := some (reason.getD defaultCancelReason)
          updatedAt := now } none
  | refund {now : Instant} {amount : Option Amount} {reason : Option String} {plan : RefundPlan}
      {total : Amount} (planned : p.planRefund amount = .ok plan)
      (totalled : p.refundedAfter plan.amount = .ok total) :
      Gives p (.refund now amount reason)
        (Payment.record
          { p with
            metadata := p.refundMetadata now plan.amount reason
            status := plan.target
            refunded := some total
            refundedAt := some now
            updatedAt := now }
          now (.refunded plan.amount p.transaction plan.isPartial)) (some plan)
  | updateMetadata {now : Instant} {data : Metadata} :
      Gives p (.updateMetadata now data) (p.updateMetadata now data) none
  | commitEvents : Gives p .commitEvents p.commitEvents none
  | reload : Gives p .reload (restore p.snapshot) none

theorem map_eq_ok {ε α β : Type} {x : Except ε α} {f : α → β} {b : β}
    (h : x.map f = .ok b) : ∃ a, x = .ok a ∧ f a = b := by
  cases x with
  | error e => simp [Except.map] at h
  | ok a => exact ⟨a, rfl, Except.ok.inj h⟩

theorem Call.gives_of_run {p q : Payment} {c : Call} {plan : Option RefundPlan}
    (h : c.run p = .ok (q, plan)) : Call.Gives p c q plan := by
  cases c with
  | startProcessing now =>
    obtain ⟨q', hq, heq⟩ := map_eq_ok h
    cases heq
    obtain ⟨hstatus, rfl⟩ := startProcessing_ok hq
    exact .startProcessing hstatus
  | complete now transaction data =>
    obtain ⟨q', hq, heq⟩ := map_eq_ok h
    cases heq
    obtain ⟨hstatus, hnamed, rfl⟩ := complete_ok hq
    exact .complete hstatus hnamed
  | fail now reason data =>
    obtain ⟨q', hq, heq⟩ := map_eq_ok h
    cases heq
    obtain ⟨hstatus, rfl⟩ := fail_ok hq
    exact .fail hstatus
  | cancel now reason =>
    obtain ⟨q', hq, heq⟩ := map_eq_ok h
    cases heq
    obtain ⟨hstatus, rfl⟩ := cancel_ok hq
    exact .cancel hstatus
  | refund now amount reason =>
    obtain ⟨⟨plan', q'⟩, hr, heq⟩ := map_eq_ok h
    cases heq
    obtain ⟨hplan, total, htotal, rfl⟩ := refund_ok hr
    exact .refund hplan htotal
  | updateMetadata now data =>
    cases h
    exact .updateMetadata
  | commitEvents =>
    cases h
    exact .commitEvents
  | reload =>
    cases h
    exact .reload

theorem requireTransition_of_allows {p : Payment} {target : Status}
    (h : p.status.allows target = true) : p.requireTransition target = .ok () :=
  if_pos h

theorem Call.run_of_gives {p q : Payment} {c : Call} {plan : Option RefundPlan}
    (h : Call.Gives p c q plan) : c.run p = .ok (q, plan) := by
  cases h with
  | startProcessing hstatus =>
    have hallows := requireTransition_of_allows (Status.allows_processing.2 hstatus)
    simp only [run, Payment.startProcessing, hallows]
    rfl
  | complete hstatus hnamed =>
    have hallows := requireTransition_of_allows (Status.allows_completed.2 hstatus)
    simp only [run, Payment.complete, hallows, hnamed]
    rfl
  | fail hstatus =>
    have hallows := requireTransition_of_allows (Status.allows_failed.2 hstatus)
    simp only [run, Payment.fail, hallows]
    rfl
  | cancel hstatus =>
    have hallows := requireTransition_of_allows (Status.allows_cancelled.2 hstatus)
    simp only [run, Payment.cancel, hallows]
    rfl
  | @refund now amount reason plan total hplan htotal =>
    simp only [run, Payment.refund, hplan, htotal, bind, Except.bind]
    cases reason <;> rfl
  | updateMetadata => rfl
  | commitEvents => rfl
  | reload => rfl

theorem Call.Gives.after_eq {p q : Payment} {c : Call} {plan : Option RefundPlan}
    (h : Call.Gives p c q plan) : p.after c = q := by
  unfold after
  rw [Call.run_of_gives h]

/-! ## What a payment is -/

/-- The two payments are one and the same at different times: everything that no command may
change is equal. -/
structure SameIdentity (p q : Payment) : Prop where
  id : q.id = p.id
  tenant : q.tenant = p.tenant
  provider : q.provider = p.provider
  amount : q.amount = p.amount
  currency : q.currency = p.currency
  order : q.order = p.order
  reference : q.reference = p.reference
  createdAt : q.createdAt = p.createdAt
  version : q.version = p.version

theorem SameIdentity.refl (p : Payment) : SameIdentity p p :=
  ⟨rfl, rfl, rfl, rfl, rfl, rfl, rfl, rfl, rfl⟩

theorem SameIdentity.trans {p q r : Payment} (h : SameIdentity p q) (h' : SameIdentity q r) :
    SameIdentity p r where
  id := h'.id.trans h.id
  tenant := h'.tenant.trans h.tenant
  provider := h'.provider.trans h.provider
  amount := h'.amount.trans h.amount
  currency := h'.currency.trans h.currency
  order := h'.order.trans h.order
  reference := h'.reference.trans h.reference
  createdAt := h'.createdAt.trans h.createdAt
  version := h'.version.trans h.version

theorem Call.Gives.sameIdentity {p q : Payment} {c : Call} {plan : Option RefundPlan}
    (h : Call.Gives p c q plan) : SameIdentity p q := by
  cases h <;> exact ⟨rfl, rfl, rfl, rfl, rfl, rfl, rfl, rfl, rfl⟩

theorem refund_id {p q : Payment} {now : Instant} {amount : Option Amount} {reason : Option String}
    {plan : RefundPlan} (h : p.refund now amount reason = .ok (plan, q)) : q.id = p.id := by
  obtain ⟨-, total, -, rfl⟩ := refund_ok h
  rfl

theorem after_sameIdentity (p : Payment) (c : Call) : SameIdentity p (p.after c) := by
  unfold after
  cases h : c.run p with
  | error e => exact .refl p
  | ok r => exact (Call.gives_of_run h).sameIdentity

theorem afterAll_sameIdentity (p : Payment) (calls : List Call) :
    SameIdentity p (p.afterAll calls) := by
  induction calls generalizing p with
  | nil => exact .refl p
  | cons c rest ih => exact (after_sameIdentity p c).trans (ih (p.after c))

end Payment

end Paydesk
