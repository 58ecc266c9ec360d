import Paydesk.Proofs.Payment.Balance

/-!
# Planned refunds and refunds that are made

For any payment at all, also one whose fields contradict each other, a refund is made exactly if it
can be planned, and as it was planned: `refunded_as_planned`.

1. What is left may be nothing or less than that (`balance`); where an amount is left to be taken by
   default, it is the balance (`cents_getD`).
2. A refund can be planned exactly if the state permits one and the amount lies within a balance that
   is not used up (`exists_planRefund_iff`).
3. Once a refund is planned, the sum of all refunds exists, so making it ends as planning it ends
   (`refund_map_fst`).
-/

namespace Paydesk.Payment

/-! ## What is left and what is asked for -/

/-- What is left of the amount, in cents; below zero if more was paid back than the amount. -/
def balance (p : Payment) : Int :=
  p.amount.cents - p.refundedCents

/-- The cents that a refund asks for, by default the whole balance. -/
def requestedCents (p : Payment) : Option Amount → Int
  | some amount => amount.cents
  | none => p.balance

theorem cents_getD {p : Payment} {rest : Amount} (h : p.refundable = some rest)
    (amount : Option Amount) : ((amount.getD rest).cents : Int) = p.requestedCents amount := by
  cases amount with
  | some a => rfl
  | none =>
    have hsum := cents_refundable h
    show (rest.cents : Int) = p.amount.cents - p.refundedCents
    omega

/-! ## Planning -/

theorem planRefund_requestedCents {p : Payment} {amount : Option Amount} {plan : RefundPlan}
    (h : p.planRefund amount = .ok plan) : (plan.amount.cents : Int) = p.requestedCents amount := by
  obtain ⟨rest, hrest, hamount, -⟩ := planRefund_ok h
  rw [hamount]
  exact cents_getD hrest amount

/-- A refund can be planned exactly if the state permits one and the amount lies within the balance,
which it has to settle in the partly refunded state. -/
theorem exists_planRefund_iff {p : Payment} {amount : Option Amount} :
    (∃ plan, p.planRefund amount = .ok plan) ↔
      (p.status = .completed ∨ p.status = .partiallyRefunded) ∧ 0 < p.balance ∧
        p.requestedCents amount ≤ p.balance ∧
        (p.status = .partiallyRefunded → p.requestedCents amount = p.balance) := by
  constructor
  · rintro ⟨plan, hplan⟩
    have hcents := planRefund_requestedCents hplan
    have hpositive := plan.amount.cents_pos
    obtain ⟨hle, hpartial⟩ := planRefund_cents hplan
    have hstatus : p.status = .completed ∨ p.status = .partiallyRefunded := by
      rcases planRefund_status hplan with ⟨hcompleted, -⟩ | ⟨hstatus, -⟩
      · exact .inl hcompleted
      · exact hstatus
    refine ⟨hstatus, ?_, ?_, fun hpartially => ?_⟩
    · unfold balance
      omega
    · unfold balance
      omega
    · -- a plan for less than the balance leads out of the completed state only
      have hwhole : ¬ plan.isPartial = true := by
        rcases planRefund_status hplan with ⟨hcompleted, -⟩ | ⟨-, hwhole, -⟩
        · rw [hpartially] at hcompleted
          cases hcompleted
        · simp [hwhole]
      rw [hpartial] at hwhole
      unfold balance
      omega
  · rintro ⟨hstatus, hpositive, hwithin, hsettles⟩
    unfold balance at hpositive hwithin hsettles
    refine exists_planRefund amount hstatus (by omega) ?_ ?_
    · rintro a rfl
      change (a.cents : Int) ≤ _ at hwithin
      omega
    · rintro hpartially a rfl
      have hsettled : (a.cents : Int) = _ := hsettles hpartially
      omega

/-! ## Planning and paying back -/

/-- Paying back ends as planning ends, with the same plan or the same error: the sum of all refunds
exists after every plan. -/
theorem refund_map_fst (p : Payment) (now : Instant) (amount : Option Amount)
    (reason : Option String) :
    (p.refund now amount reason).map Prod.fst = p.planRefund amount := by
  cases hplan : p.planRefund amount with
  | error e =>
    unfold refund
    rw [hplan]
    rfl
  | ok plan =>
    obtain ⟨q, hq⟩ := exists_refund hplan now reason
    rw [hq]
    rfl

theorem exists_refund_iff {p : Payment} {now : Instant} {amount : Option Amount}
    {reason : Option String} {plan : RefundPlan} :
    (∃ q, p.refund now amount reason = .ok (plan, q)) ↔ p.planRefund amount = .ok plan :=
  ⟨fun ⟨_, hq⟩ => (refund_ok hq).1, fun hplan => exists_refund hplan now reason⟩

/-- What was paid back is added to what was paid back before, within the amount. -/
theorem refund_refundedCents {p q : Payment} {now : Instant} {amount : Option Amount}
    {reason : Option String} {plan : RefundPlan} (h : p.refund now amount reason = .ok (plan, q)) :
    q.refunded.isSome = true ∧ q.refundedCents = p.refundedCents + plan.amount.cents := by
  obtain ⟨-, total, htotal, rfl⟩ := refund_ok h
  exact ⟨rfl, (refundedCents_of_some rfl).trans (refundedAfter_cents htotal)⟩

/-- **A refund is made as it was planned.** Any payment, any amount or none, any reason and any time.
A refund can be planned exactly if the payment is completed or partly refunded, the balance is
positive, and the amount, by default the balance, does not exceed it and in the partly refunded state
is equal to it. It is made exactly if it can be planned, with that plan, and the amount of a plan can
be planned again, with the same plan. What was paid back is then what was paid back before and the
amount together, not more than the amount of the payment, and less exactly if the refund is a partial
one, which the new state tells. -/
theorem refunded_as_planned (p : Payment) (amount : Option Amount) (now : Instant)
    (reason : Option String) :
    ((∃ plan, p.planRefund amount = .ok plan) ↔
      (p.status = .completed ∨ p.status = .partiallyRefunded) ∧ 0 < p.balance ∧
        p.requestedCents amount ≤ p.balance ∧
        (p.status = .partiallyRefunded → p.requestedCents amount = p.balance)) ∧
    (∀ plan, (∃ q, p.refund now amount reason = .ok (plan, q)) ↔
      p.planRefund amount = .ok plan) ∧
    (∀ plan, p.planRefund amount = .ok plan → p.planRefund (some plan.amount) = .ok plan) ∧
    ∀ plan q, p.refund now amount reason = .ok (plan, q) →
      (plan.amount.cents : Int) = p.requestedCents amount ∧ q.amount = p.amount ∧
      q.refunded.isSome = true ∧ q.refundedCents = p.refundedCents + plan.amount.cents ∧
      q.refundedCents ≤ q.amount.cents ∧
      (plan.isPartial = true ↔ q.refundedCents < q.amount.cents) ∧
      q.status = if plan.isPartial then .partiallyRefunded else .refunded := by
  refine ⟨exists_planRefund_iff, fun plan => exists_refund_iff, fun plan => planRefund_again,
    fun plan q hrefund => ?_⟩
  have hplan := exists_refund_iff.1 ⟨q, hrefund⟩
  obtain ⟨hsome, hcents⟩ := refund_refundedCents hrefund
  obtain ⟨hle, hpartial⟩ := planRefund_cents hplan
  obtain ⟨-, -, -, -, -, htarget, -⟩ := planRefund_ok hplan
  obtain ⟨-, total, -, hq⟩ := refund_ok hrefund
  have hamount : q.amount = p.amount := by rw [hq]; rfl
  have hstatus : q.status = plan.target := by rw [hq]; rfl
  refine ⟨planRefund_requestedCents hplan, hamount, hsome, hcents, ?_, ?_, hstatus.trans htarget⟩
  · rw [hcents, hamount]
    exact hle
  · rw [hcents, hamount]
    exact hpartial

end Paydesk.Payment
