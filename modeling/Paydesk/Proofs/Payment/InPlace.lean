import Paydesk.Proofs.Payment.History
import Paydesk.Proofs.Payment.Planning

/-!
# Commands in place

A command changes a payment that its caller holds, field after field, with checks in between
(`Edit`). An error does not take back what was changed before it, so that a command that fails leaves
the payment as it was is a fact about the order of its checks and changes: `command_done_or_undone`.

1. The commands are written down statement by statement (`Call.edit`).
2. Whatever the payment is, a command in place ends like the command that gives a new payment: on
   success the new payment is in its place, on failure the old one, untouched (`Call.edit_eq`).
3. A command fails exactly if something is in its way (`Call.run_error_iff`), and records one event
   or none (`Call.Gives.events_eq_append`).
-/

namespace Paydesk.Payment

/-! ## Changes in place -/

/-- Work on a payment in place. An error ends it at once, and what was changed until then stays
changed. -/
abbrev Edit (α : Type) : Type :=
  EStateM PaymentError Payment α

namespace Edit

/-- A check of the payment as it stands. -/
def check {α : Type} (test : Payment → Except PaymentError α) : Edit α := fun p =>
  match test p with
  | .ok a => .ok a p
  | .error e => .error e p

def startProcessing (now : Instant) : Edit Unit := do
  check fun p => p.requireTransition .processing
  modify fun p => { p with status := .processing }
  modify fun p => { p with updatedAt := now }

def complete (now : Instant) (transaction : String) (data : Option Metadata) : Edit Unit := do
  check fun p => p.requireTransition .completed
  if Text.isBlankText transaction then
    throw (.invalid .blankTransaction)
  modify fun p => { p with status := .completed }
  modify fun p => { p with transaction := some transaction }
  modify fun p => { p with completedAt := some now }
  modify fun p => p.annotate data
  modify fun p => p.note completedAtKey now.toOffsetText
  modify fun p => { p with updatedAt := now }
  modify fun p => p.record now (.completed transaction)

def fail (now : Instant) (reason : String) (data : Option Metadata) : Edit Unit := do
  check fun p => p.requireTransition .failed
  modify fun p => { p with status := .failed }
  modify fun p => { p with reason := some reason }
  modify fun p => { p with failedAt := some now }
  modify fun p => p.annotate data
  modify fun p => p.note failedAtKey now.toOffsetText
  modify fun p => { p with updatedAt := now }
  modify fun p => p.record now (.failed reason)

def cancel (now : Instant) (reason : Option String) : Edit Unit := do
  check fun p => p.requireTransition .cancelled
  let reason := reason.getD defaultCancelReason
  modify fun p => { p with status := .cancelled }
  modify fun p => p.note cancellationReasonKey reason
  modify fun p => { p with reason := some reason }
  modify fun p => { p with updatedAt := now }

def refund (now : Instant) (amount : Option Amount) (reason : Option String) : Edit RefundPlan := do
  let plan ← check fun p => p.planRefund amount
  let total ← check fun p => p.refundedAfter plan.amount
  modify fun p => { p with status := plan.target }
  modify fun p => { p with refunded := some total }
  modify fun p => { p with refundedAt := some now }
  modify fun p => p.note refundAmountKey plan.amount.formatted
  if let some text := reason then
    modify fun p => p.note refundReasonKey text
  modify fun p => p.note refundedAtKey now.toOffsetText
  modify fun p => { p with updatedAt := now }
  modify fun p => p.record now (.refunded plan.amount p.transaction plan.isPartial)
  return plan

end Edit

/-- A call in place, with the plan of a refund. -/
def Call.edit : Call → Edit (Option RefundPlan)
  | .startProcessing now => (Edit.startProcessing now).map fun _ => none
  | .complete now transaction data => (Edit.complete now transaction data).map fun _ => none
  | .fail now reason data => (Edit.fail now reason data).map fun _ => none
  | .cancel now reason => (Edit.cancel now reason).map fun _ => none
  | .refund now amount reason => (Edit.refund now amount reason).map some
  | .updateMetadata now data => do
    modify fun p => { p with metadata := p.metadata.merge data }
    modify fun p => { p with updatedAt := now }
    return none
  | .commitEvents => do
    modify fun p => p.commitEvents
    return none
  | .reload => do
    modify fun p => restore p.snapshot
    return none

/-- What is in place after a call that gives a new payment or fails. -/
def settled (p : Payment) : Except PaymentError (Payment × Option RefundPlan) →
    EStateM.Result PaymentError Payment (Option RefundPlan)
  | .ok (q, plan) => .ok plan q
  | .error e => .error e p

/-- A check that comes first decides whether there is a rest. -/
theorem Edit.check_bind {α β : Type} (test : Payment → Except PaymentError α) (rest : α → Edit β)
    (p : Payment) : (check test >>= rest) p = match test p with
      | .ok a => rest a p
      | .error e => .error e p := by
  simp only [bind, EStateM.bind, check]
  cases test p <;> rfl

/-- A call in place leaves what the call gives, and if the call fails the payment as it was. -/
theorem Call.edit_eq (p : Payment) (c : Call) : c.edit p = p.settled (c.run p) := by
  -- once the checks are decided, both sides are the same changes in another order
  cases c with
  | startProcessing now =>
    simp only [edit, EStateM.map, Edit.startProcessing, Edit.check_bind, run, Payment.startProcessing]
    cases p.requireTransition .processing <;> rfl
  | complete now transaction data =>
    simp only [edit, EStateM.map, Edit.complete, Edit.check_bind, run, Payment.complete]
    cases p.requireTransition .completed <;> cases Text.isBlankText transaction <;> rfl
  | fail now reason data =>
    simp only [edit, EStateM.map, Edit.fail, Edit.check_bind, run, Payment.fail]
    cases p.requireTransition .failed <;> rfl
  | cancel now reason =>
    simp only [edit, EStateM.map, Edit.cancel, Edit.check_bind, run, Payment.cancel]
    cases p.requireTransition .cancelled <;> rfl
  | refund now amount reason =>
    simp only [edit, EStateM.map, Edit.refund, Edit.check_bind, run, Payment.refund]
    cases p.planRefund amount with
    | error e => rfl
    | ok plan =>
      simp only [bind, Except.bind]
      cases p.refundedAfter plan.amount with
      | error e => rfl
      | ok total => cases reason <;> rfl
  | updateMetadata now data => rfl
  | commitEvents => rfl
  | reload => rfl

/-! ## What is in the way of a command -/

/-- What is in the way of a command: no edge of the graph of states leads to where it would lead, the
refund cannot be planned, or the transaction has no name. -/
def Call.IsBarred (p : Payment) : Call → Prop
  | .startProcessing _ => p.status.allows .processing = false
  | .complete _ transaction _ =>
    p.status.allows .completed = false ∨ Text.isBlankText transaction = true
  | .fail _ _ _ => p.status.allows .failed = false
  | .cancel _ _ => p.status.allows .cancelled = false
  | .refund _ amount _ => ∃ e, p.planRefund amount = .error e
  | .updateMetadata _ _ | .commitEvents | .reload => False

theorem map_eq_error_iff {ε α β : Type} {x : Except ε α} {f : α → β} :
    (∃ e, x.map f = .error e) ↔ ∃ e, x = .error e := by
  cases x <;> simp [Except.map]

theorem requireTransition_bind_eq_error {p : Payment} {target : Status} {α : Type}
    {f : Unit → Except PaymentError α} :
    (∃ e, (p.requireTransition target >>= f) = .error e) ↔
      p.status.allows target = false ∨ ∃ e, f () = .error e := by
  unfold requireTransition
  cases p.status.allows target <;> simp [bind, Except.bind]

theorem Call.run_error_iff (p : Payment) (c : Call) :
    (∃ e, c.run p = .error e) ↔ c.IsBarred p := by
  cases c with
  | startProcessing now =>
    refine map_eq_error_iff.trans (requireTransition_bind_eq_error.trans ?_)
    simp [IsBarred, pure, Except.pure]
  | complete now transaction data =>
    refine map_eq_error_iff.trans (requireTransition_bind_eq_error.trans ?_)
    cases h : Text.isBlankText transaction <;> simp [IsBarred, h, pure, Except.pure]
  | fail now reason data =>
    refine map_eq_error_iff.trans (requireTransition_bind_eq_error.trans ?_)
    simp [IsBarred, pure, Except.pure]
  | cancel now reason =>
    refine map_eq_error_iff.trans (requireTransition_bind_eq_error.trans ?_)
    simp [IsBarred, pure, Except.pure]
  | refund now amount reason =>
    refine map_eq_error_iff.trans ?_
    show _ ↔ ∃ e, p.planRefund amount = .error e
    rw [← refund_map_fst p now amount reason]
    exact map_eq_error_iff.symm
  | updateMetadata now data => simp [run, IsBarred]
  | commitEvents => simp [run, IsBarred]
  | reload => simp [run, IsBarred]

/-! ## What a command records -/

/-- How many events a command records. -/
def Call.eventCount : Call → Nat
  | .complete _ _ _ | .fail _ _ _ | .refund _ _ _ => 1
  | _ => 0

/-- A command that succeeds leaves the waiting events in front of what it records. -/
theorem Call.Gives.events_eq_append {p q : Payment} {c : Call} {plan : Option RefundPlan}
    (h : Gives p c q plan) (hcommand : c.IsCommand) :
    ∃ recorded, q.events = p.events ++ recorded ∧ recorded.length = c.eventCount := by
  cases h with
  | startProcessing _ => exact ⟨[], (List.append_nil _).symm, rfl⟩
  | complete _ _ => exact ⟨[_], rfl, rfl⟩
  | fail _ => exact ⟨[_], rfl, rfl⟩
  | cancel _ => exact ⟨[], (List.append_nil _).symm, rfl⟩
  | refund _ _ => exact ⟨[_], rfl, rfl⟩
  | updateMetadata => exact hcommand.elim
  | commitEvents => exact hcommand.elim
  | reload => exact hcommand.elim

theorem Call.Gives.time_eq {p q : Payment} {c : Call} {plan : Option RefundPlan}
    (h : Gives p c q plan) (hcommand : c.IsCommand) : c.time = some q.updatedAt := by
  cases h with
  | updateMetadata => exact hcommand.elim
  | commitEvents => exact hcommand.elim
  | reload => exact hcommand.elim
  | _ => rfl

/-- **A command is done or has done nothing.** Any payment, whatever its fields say and whichever
events wait, and any command on it. The command fails exactly if something is in its way. If it
fails, the payment in place is the one that was there, with all its fields, its version and its
events; if it succeeds, it is the one that the command gives, whose events are those that have waited
and behind them the one that the command records, if it records one, and which was updated at the
time of the command. -/
theorem command_done_or_undone (p : Payment) (c : Call) (hcommand : c.IsCommand) :
    ((∃ e, c.run p = .error e) ↔ c.IsBarred p) ∧
    (∀ e, c.run p = .error e → c.edit p = .error e p) ∧
    ∀ q plan, c.run p = .ok (q, plan) → c.edit p = .ok plan q ∧
      (∃ recorded, q.events = p.events ++ recorded ∧ recorded.length = c.eventCount) ∧
      c.time = some q.updatedAt := by
  refine ⟨Call.run_error_iff p c, fun e hrun => ?_, fun q plan hrun => ?_⟩
  · rw [Call.edit_eq, hrun]
    rfl
  · have hgives := Call.gives_of_run hrun
    refine ⟨?_, hgives.events_eq_append hcommand, hgives.time_eq hcommand⟩
    rw [Call.edit_eq, hrun]
    rfl

/-- A payment in processing whose other fields belong to no such payment, with an event that waits. -/
def muddled : Payment :=
  record
    { id := PaymentId.make 1700000000000 1
      tenant := "tenant-a"
      provider := .visanet
      amount := ⟨⟨300, 0, by decide, Nat.zero_le _⟩, by decide, by decide, by decide⟩
      currency := .usd
      status := .processing
      order := "first"
      transaction := some "paid"
      reference := none
      metadata := ⟨[("failedAt", .null)], by decide, trivial, trivial⟩
      refunded := some ⟨⟨500, 0, by decide, Nat.zero_le _⟩, by decide, by decide, by decide⟩
      reason := some "mine"
      createdAt := ⟨9, 0⟩
      updatedAt := ⟨8, 0⟩
      completedAt := some ⟨7, 0⟩
      failedAt := none
      refundedAt := none
      version := 12
      events := [] }
    ⟨9, 0⟩ .initiated

/-- Completing it without the name of a transaction leaves it as it was, and failing it adds one
event to the one that waits. -/
theorem command_done_or_undone_muddled :
    let unnamed := Call.complete ⟨10, 0⟩ " \t" none
    let failing := Call.fail ⟨10, 0⟩ "no cover" (some ⟨[("failedAt", .bool true)], by decide, trivial, trivial⟩)
    (unnamed.IsCommand ∧ failing.IsCommand) ∧
    unnamed.edit muddled = .error (.invalid .blankTransaction) muddled ∧
    ∃ q, failing.edit muddled = .ok none q ∧ q.updatedAt = ⟨10, 0⟩ ∧
      ∃ recorded, q.events = muddled.events ++ recorded ∧ recorded.length = 1 := by
  intro unnamed failing
  have hunnamed := command_done_or_undone muddled unnamed trivial
  have hfailing := command_done_or_undone muddled failing trivial
  refine ⟨⟨trivial, trivial⟩, hunnamed.2.1 _ rfl, ?_⟩
  obtain ⟨hplace, hevents, htime⟩ := hfailing.2.2 _ none rfl
  exact ⟨_, hplace, (Option.some.inj htime).symm, hevents⟩

end Paydesk.Payment
