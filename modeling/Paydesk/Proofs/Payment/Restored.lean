import Paydesk.Proofs.Payment.Call

/-!
# Restored payments

What a payment does next depends on its stored part only. Two payments with the same stored part give
the same answers to every call (`Call.view_eq`), so they have the same stored part after it, and
along any calls in a row (`answers_eq`, `snapshot_afterAll_eq`); a restored payment thus stands for
the one it was stored from (`answers_restore`).
-/

namespace Paydesk.Payment

/-- What can be seen of a call: its error, or the stored part of the payment after it with the plan
of a refund. -/
def Call.view (p : Payment) (c : Call) : Except PaymentError (Snapshot × Option RefundPlan) :=
  (c.run p).map fun r => (r.1.snapshot, r.2)

/-- What can be seen of calls in a row. -/
def answers (p : Payment) : List Call → List (Except PaymentError (Snapshot × Option RefundPlan))
  | [] => []
  | c :: rest => c.view p :: answers (p.after c) rest

/-- The waiting events play no part in a call. -/
theorem Call.view_eq {p q : Payment} (h : p.snapshot = q.snapshot) (c : Call) :
    c.view p = c.view q := by
  obtain ⟨s, events⟩ := p
  obtain ⟨s', events'⟩ := q
  obtain rfl : s = s' := h
  cases c with
  | startProcessing now =>
    simp only [view, run, Payment.startProcessing, requireTransition]
    split <;> rfl
  | complete now transaction data =>
    simp only [view, run, Payment.complete, requireTransition]
    cases s.status.allows .completed <;> cases Text.isBlankText transaction <;> rfl
  | fail now reason data =>
    simp only [view, run, Payment.fail, requireTransition]
    split <;> rfl
  | cancel now reason =>
    simp only [view, run, Payment.cancel, requireTransition]
    split <;> rfl
  | refund now amount reason =>
    have hplan : planRefund ⟨s, events'⟩ amount = planRefund ⟨s, events⟩ amount := rfl
    have htotal : ∀ refunded, refundedAfter ⟨s, events'⟩ refunded =
        refundedAfter ⟨s, events⟩ refunded := fun _ => rfl
    simp only [view, run, Payment.refund, hplan, htotal]
    cases planRefund ⟨s, events⟩ amount with
    | error e => rfl
    | ok plan =>
      change (((refundedAfter ⟨s, events⟩ plan.amount).bind _).map _).map _ =
        (((refundedAfter ⟨s, events⟩ plan.amount).bind _).map _).map _
      cases refundedAfter ⟨s, events⟩ plan.amount with
      | error e => rfl
      | ok total => cases reason <;> rfl
  | updateMetadata now data => rfl
  | commitEvents => rfl
  | reload => rfl

theorem snapshot_after (p : Payment) (c : Call) :
    (p.after c).snapshot = match c.view p with
      | .ok (s, _) => s
      | .error _ => p.snapshot := by
  unfold after Call.view
  cases c.run p <;> rfl

theorem snapshot_after_eq {p q : Payment} (h : p.snapshot = q.snapshot) (c : Call) :
    (p.after c).snapshot = (q.after c).snapshot := by
  rw [snapshot_after, snapshot_after, Call.view_eq h, h]

theorem answers_eq {p q : Payment} (h : p.snapshot = q.snapshot) (calls : List Call) :
    p.answers calls = q.answers calls := by
  induction calls generalizing p q with
  | nil => rfl
  | cons c rest ih => rw [answers, answers, Call.view_eq h, ih (snapshot_after_eq h c)]

theorem snapshot_afterAll_eq {p q : Payment} (h : p.snapshot = q.snapshot) (calls : List Call) :
    (p.afterAll calls).snapshot = (q.afterAll calls).snapshot := by
  induction calls generalizing p q with
  | nil => exact h
  | cons c rest ih => exact ih (snapshot_after_eq h c)

theorem snapshot_afterAll_restore (p : Payment) (calls : List Call) :
    ((restore p.snapshot).afterAll calls).snapshot = (p.afterAll calls).snapshot :=
  snapshot_afterAll_eq (snapshot_restore p.snapshot) calls

theorem answers_restore (p : Payment) (calls : List Call) :
    (restore p.snapshot).answers calls = p.answers calls :=
  answers_eq (snapshot_restore p.snapshot) calls

end Paydesk.Payment
