import Paydesk.Proofs.Amount.Cents
import Paydesk.Proofs.Payment.Call

/-!
# The balance of a payment

What was paid back and what is left add up to the amount of the payment (`cents_refundable`,
`refundable_eq_none`). A plan of a refund is exactly a state that permits it and an amount within
the balance, which it settles from the partly refunded state (`planRefund_ok`, `exists_planRefund`);
the sum of all refunds after a planned one always exists (`refundedAfter_ok`).
-/

namespace Paydesk.Payment

/-- What was paid back so far, in cents. -/
def refundedCents (p : Payment) : Nat :=
  match p.refunded with
  | none => 0
  | some refunded => refunded.cents

theorem refundedCents_of_none {p : Payment} (h : p.refunded = none) : p.refundedCents = 0 := by
  unfold refundedCents
  rw [h]

theorem refundedCents_of_some {p : Payment} {r : Amount} (h : p.refunded = some r) :
    p.refundedCents = r.cents := by
  unfold refundedCents
  rw [h]

/-! ## What is left -/

theorem cents_refundable {p : Payment} {balance : Amount} (h : p.refundable = some balance) :
    balance.cents + p.refundedCents = p.amount.cents := by
  unfold refundable at h
  cases hr : p.refunded with
  | none =>
    rw [hr] at h
    obtain rfl := Option.some.inj h
    rw [refundedCents_of_none hr, Nat.add_zero]
  | some refunded =>
    rw [hr] at h
    rw [refundedCents_of_some hr]
    cases hs : p.amount.subtract refunded with
    | error why => simp [hs, Except.toOption] at h
    | ok rest =>
      simp only [hs, Except.toOption, Option.some.injEq] at h
      subst h
      have hlt := Amount.lt_of_subtract hs
      obtain ⟨c, hc, hcents⟩ := Amount.exists_subtract hlt
      obtain rfl := Except.ok.inj (hs.symm.trans hc)
      omega

theorem exists_refundable {p : Payment} (h : p.refundedCents < p.amount.cents) :
    ∃ balance, p.refundable = some balance := by
  unfold refundable
  cases hr : p.refunded with
  | none => exact ⟨p.amount, rfl⟩
  | some refunded =>
    rw [refundedCents_of_some hr] at h
    obtain ⟨c, hc, -⟩ := Amount.exists_subtract h
    exact ⟨c, by simp only [hc, Except.toOption]⟩

theorem refundable_eq_none {p : Payment} (h : p.refundable = none) :
    p.amount.cents ≤ p.refundedCents := by
  by_contra hlt
  obtain ⟨balance, hbalance⟩ := exists_refundable (not_le.1 hlt)
  rw [hbalance] at h
  simp at h

/-! ## Plans -/

/-- What a plan says: an amount within the balance, and the state it leads to. -/
theorem planRefund_ok {p : Payment} {amount : Option Amount} {plan : RefundPlan}
    (h : p.planRefund amount = .ok plan) :
    ∃ balance, p.refundable = some balance ∧ plan.amount = amount.getD balance ∧
      plan.amount.cents ≤ balance.cents ∧
      plan.isPartial = decide (plan.amount.cents < balance.cents) ∧
      plan.target = (if plan.isPartial then .partiallyRefunded else .refunded) ∧
      p.status.isRefundable = true ∧ p.status.allows plan.target = true := by
  unfold planRefund at h
  split at h
  · simp at h
  · rename_i hstatus
    have hstatus : p.status.isRefundable = true := by simpa using hstatus
    split at h
    · simp at h
    · rename_i balance hbalance
      dsimp only at h
      split at h
      · simp at h
      · rename_i hwithin
        obtain ⟨htarget, hplan⟩ := requireTransition_bind_eq_ok.1 h
        obtain rfl := Except.ok.inj hplan
        have hle : (amount.getD balance).cents ≤ balance.cents := by
          rwa [← Amount.exceeds_eq_false_iff, ← Bool.not_eq_true]
        exact ⟨balance, hbalance, rfl, hle, Amount.exceeds_eq_decide _ _, rfl, hstatus, htarget⟩

/-- A refund within the balance can be planned, if it settles the balance in the partly refunded
state. -/
theorem exists_planRefund {p : Payment} (amount : Option Amount)
    (hstatus : p.status = .completed ∨ p.status = .partiallyRefunded)
    (hleft : p.refundedCents < p.amount.cents)
    (hwithin : ∀ a, amount = some a → p.refundedCents + a.cents ≤ p.amount.cents)
    (hsettles : p.status = .partiallyRefunded →
      ∀ a, amount = some a → p.refundedCents + a.cents = p.amount.cents) :
    ∃ plan, p.planRefund amount = .ok plan := by
  obtain ⟨balance, hbalance⟩ := exists_refundable hleft
  have hsum := cents_refundable hbalance
  have hrefundable : p.status.isRefundable = true := by
    rcases hstatus with e | e <;> rw [e] <;> rfl
  have hle : (amount.getD balance).exceeds balance = false := by
    rw [Amount.exceeds_eq_false_iff]
    cases amount with
    | none => exact le_rfl
    | some a =>
      have := hwithin a rfl
      show a.cents ≤ balance.cents
      omega
  have hallows : p.status.allows
      (if balance.exceeds (amount.getD balance) then .partiallyRefunded else .refunded) = true := by
    rcases hstatus with e | e
    · split
      · exact Status.allows_partiallyRefunded.2 e
      · exact Status.allows_refunded.2 (.inl e)
    · have hnot : balance.exceeds (amount.getD balance) = false := by
        rw [Amount.exceeds_eq_false_iff]
        cases amount with
        | none => exact le_rfl
        | some a =>
          have := hsettles e a rfl
          show balance.cents ≤ a.cents
          omega
      rw [hnot]
      exact Status.allows_refunded.2 (.inr e)
  unfold planRefund
  rw [hrefundable, hbalance]
  simp only [Bool.not_true, Bool.false_eq_true, if_false, hle, requireTransition_of_allows hallows]
  exact ⟨_, rfl⟩

theorem planRefund_again {p : Payment} {amount : Option Amount} {plan : RefundPlan}
    (h : p.planRefund amount = .ok plan) : p.planRefund (some plan.amount) = .ok plan := by
  obtain ⟨balance, hbalance, hamount, -⟩ := planRefund_ok h
  unfold planRefund at h ⊢
  rw [hbalance] at h ⊢
  rw [hamount]
  exact h

/-- The states in which a refund can be planned, and what the plan leads to. -/
theorem planRefund_status {p : Payment} {amount : Option Amount} {plan : RefundPlan}
    (h : p.planRefund amount = .ok plan) :
    p.status = .completed ∧ plan.isPartial = true ∧ plan.target = .partiallyRefunded ∨
      (p.status = .completed ∨ p.status = .partiallyRefunded) ∧ plan.isPartial = false ∧
        plan.target = .refunded := by
  obtain ⟨-, -, -, -, -, htarget, -, hallows⟩ := planRefund_ok h
  cases hpartial : plan.isPartial with
  | true =>
    rw [hpartial, if_pos rfl] at htarget
    rw [htarget] at hallows
    exact .inl ⟨Status.allows_partiallyRefunded.1 hallows, rfl, htarget⟩
  | false =>
    rw [hpartial] at htarget
    rw [htarget] at hallows
    exact .inr ⟨Status.allows_refunded.1 hallows, rfl, htarget⟩

theorem planRefund_cents {p : Payment} {amount : Option Amount} {plan : RefundPlan}
    (h : p.planRefund amount = .ok plan) :
    p.refundedCents + plan.amount.cents ≤ p.amount.cents ∧
      (plan.isPartial = true ↔ p.refundedCents + plan.amount.cents < p.amount.cents) := by
  obtain ⟨balance, hbalance, -, hle, hpartial, -⟩ := planRefund_ok h
  have hsum := cents_refundable hbalance
  rw [hpartial, decide_eq_true_iff]
  omega

/-! ## The sum of all refunds -/

theorem refundedAfter_cents {p : Payment} {amount total : Amount}
    (h : p.refundedAfter amount = .ok total) :
    total.cents = p.refundedCents + amount.cents := by
  unfold refundedAfter at h
  cases hr : p.refunded with
  | none =>
    rw [hr] at h
    obtain rfl := Except.ok.inj h
    rw [refundedCents_of_none hr, Nat.zero_add]
  | some previous =>
    rw [hr] at h
    rw [refundedCents_of_some hr]
    cases hsum : previous.add amount with
    | error why => simp [hsum, checked] at h
    | ok sum =>
      simp only [hsum, checked, Except.ok.injEq] at h
      subst h
      exact Amount.cents_of_add hsum

/-- The sum exists after every amount that can be planned. -/
theorem refundedAfter_ok {p : Payment} {amount : Option Amount} {plan : RefundPlan}
    (h : p.planRefund amount = .ok plan) : ∃ total, p.refundedAfter plan.amount = .ok total := by
  have hle := (planRefund_cents h).1
  have hmax := p.amount.cents_le
  unfold refundedAfter
  cases hr : p.refunded with
  | none => exact ⟨plan.amount, rfl⟩
  | some previous =>
    rw [refundedCents_of_some hr] at hle
    obtain ⟨total, htotal, -⟩ := Amount.exists_add (hle.trans hmax)
    exact ⟨total, by simp only [htotal, checked]⟩

theorem exists_refund {p : Payment} {amount : Option Amount} {plan : RefundPlan}
    (h : p.planRefund amount = .ok plan) (now : Instant) (reason : Option String) :
    ∃ q, p.refund now amount reason = .ok (plan, q) := by
  obtain ⟨total, htotal⟩ := refundedAfter_ok h
  unfold refund
  rw [h]
  show ∃ q, ((p.refundedAfter plan.amount) >>= _) = _
  rw [htotal]
  exact ⟨_, rfl⟩

end Paydesk.Payment
