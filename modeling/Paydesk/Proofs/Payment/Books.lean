import Paydesk.Proofs.Payment.Balance

/-!
# The books of a payment

A payment together with the plans of all refunds that succeeded on it (`Books`). Whatever calls are
made on a new payment, and whichever of them fail, the books balance: `money_conserved`.

1. What the state says about the money is one invariant, `Books.Balanced`: nothing was paid back
   outside the two refunded states, less than the amount after one partial refund, all of it after
   the last.
2. A refund adds its planned amount to the sum (`Balanced.refund`); its target is the state that the
   new sum asks for. Every other call moves between states in which nothing was paid back, or keeps
   the state (`Balanced.call`).
3. A new payment has balanced books, so they balance after every list of calls.
-/

namespace Paydesk.Payment

/-- A payment and the plans that its successful refunds returned, the first one first. -/
structure Books where
  payment : Payment
  refunds : List RefundPlan

namespace Books

/-- The books of a payment on which nothing was refunded yet. -/
def opened (p : Payment) : Books :=
  ⟨p, []⟩

/-- The books after a call, successful or not. -/
def call (b : Books) (c : Call) : Books :=
  match c.run b.payment with
  | .ok (q, plan) => ⟨q, b.refunds ++ plan.toList⟩
  | .error _ => b

def callAll (b : Books) (calls : List Call) : Books :=
  calls.foldl call b

/-- The sum of the planned amounts, in cents. -/
def refundSum (b : Books) : Nat :=
  (b.refunds.map fun plan => plan.amount.cents).sum

theorem call_payment (b : Books) (c : Call) : (b.call c).payment = b.payment.after c := by
  unfold call after
  cases c.run b.payment <;> rfl

theorem callAll_payment (b : Books) (calls : List Call) :
    (b.callAll calls).payment = b.payment.afterAll calls := by
  induction calls generalizing b with
  | nil => rfl
  | cons c rest ih =>
    show ((b.call c).callAll rest).payment = (b.payment.after c).afterAll rest
    rw [ih, call_payment]

/-! ## What the state says about the money -/

/-- What was paid back, as the state of the payment tells it. -/
structure Balanced (b : Books) : Prop where
  sum : b.payment.refundedCents = b.refundSum
  unrefunded : b.payment.status ≠ .partiallyRefunded → b.payment.status ≠ .refunded →
    b.payment.refunded = none ∧ b.refunds = []
  partially : b.payment.status = .partiallyRefunded →
    b.payment.refunded ≠ none ∧ b.payment.refundedCents < b.payment.amount.cents ∧
      b.refunds.length = 1
  fully : b.payment.status = .refunded →
    b.payment.refunded ≠ none ∧ b.payment.refundedCents = b.payment.amount.cents ∧
      b.refunds.length ≤ 2

theorem Balanced.opened {p : Payment} (hstatus : p.status = .pending)
    (hrefunded : p.refunded = none) : (opened p).Balanced where
  sum := refundedCents_of_none hrefunded
  unrefunded := fun _ _ => ⟨hrefunded, rfl⟩
  partially := fun h => by
    have : p.status = .partiallyRefunded := h
    rw [hstatus] at this
    simp at this
  fully := fun h => by
    have : p.status = .refunded := h
    rw [hstatus] at this
    simp at this

/-- A change of the state that pays nothing back, from a state in which nothing was paid back to
another such state. -/
theorem Balanced.move {b : Books} {q : Payment} (h : b.Balanced)
    (hfrom : b.payment.status = .pending ∨ b.payment.status = .processing)
    (hto : q.status ≠ .partiallyRefunded ∧ q.status ≠ .refunded)
    (hrefunded : q.refunded = b.payment.refunded) : Balanced ⟨q, b.refunds⟩ := by
  obtain ⟨hnone, hempty⟩ := h.unrefunded (by rcases hfrom with e | e <;> simp [e])
    (by rcases hfrom with e | e <;> simp [e])
  rw [hnone] at hrefunded
  refine ⟨?_, fun _ _ => ⟨hrefunded, hempty⟩, fun hs => absurd hs hto.1, fun hs => absurd hs hto.2⟩
  rw [refundedCents_of_none hrefunded]
  unfold refundSum
  rw [hempty]
  rfl

theorem Balanced.keep {b : Books} {q : Payment} (h : b.Balanced)
    (hstatus : q.status = b.payment.status) (hrefunded : q.refunded = b.payment.refunded)
    (hamount : q.amount = b.payment.amount) : Balanced ⟨q, b.refunds⟩ := by
  have hcents : q.refundedCents = b.payment.refundedCents := by
    unfold refundedCents
    rw [hrefunded]
  refine ⟨hcents.trans h.sum, ?_, ?_, ?_⟩
  · show q.status ≠ _ → q.status ≠ _ → q.refunded = none ∧ _
    rw [hstatus, hrefunded]
    exact h.unrefunded
  · show q.status = _ → q.refunded ≠ none ∧ q.refundedCents < q.amount.cents ∧ _
    rw [hstatus, hrefunded, hcents, hamount]
    exact h.partially
  · show q.status = _ → q.refunded ≠ none ∧ q.refundedCents = q.amount.cents ∧ _
    rw [hstatus, hrefunded, hcents, hamount]
    exact h.fully

/-- A refund adds its planned amount and leads to the state that the new sum asks for. -/
theorem Balanced.refund {b : Books} {q : Payment} {amount : Option Amount} {plan : RefundPlan}
    {total : Amount} (h : b.Balanced) (hplan : b.payment.planRefund amount = .ok plan)
    (htotal : b.payment.refundedAfter plan.amount = .ok total) (hstatus : q.status = plan.target)
    (hrefunded : q.refunded = some total) (hamount : q.amount = b.payment.amount) :
    Balanced ⟨q, b.refunds ++ [plan]⟩ := by
  have hcents : q.refundedCents = b.payment.refundedCents + plan.amount.cents := by
    rw [refundedCents_of_some hrefunded, refundedAfter_cents htotal]
  have hsome : q.refunded ≠ none := by simp [hrefunded]
  have hlength : (b.refunds ++ [plan]).length = b.refunds.length + 1 := by simp
  obtain ⟨hle, hpartial⟩ := planRefund_cents hplan
  have hsum : q.refundedCents = refundSum ⟨q, b.refunds ++ [plan]⟩ := by
    rw [hcents, h.sum]
    simp [refundSum]
  rcases planRefund_status hplan with ⟨hfrom, hisPartial, htarget⟩ | ⟨hfrom, hisPartial, htarget⟩
  · -- the first refund, and not of everything
    obtain ⟨-, hempty⟩ := h.unrefunded (by simp [hfrom]) (by simp [hfrom])
    rw [htarget] at hstatus
    refine ⟨hsum, fun hne _ => absurd hstatus hne, fun _ => ⟨hsome, ?_, ?_⟩, fun hs => ?_⟩
    · show q.refundedCents < q.amount.cents
      rw [hcents, hamount]
      exact hpartial.1 hisPartial
    · simp [hempty]
    · have : q.status = .refunded := hs
      rw [hstatus] at this
      simp at this
  · -- the refund that settles the balance
    have hbefore : b.refunds.length ≤ 1 := by
      rcases hfrom with e | e
      · have := (h.unrefunded (by simp [e]) (by simp [e])).2
        simp [this]
      · exact (h.partially e).2.2.le
    rw [htarget] at hstatus
    refine ⟨hsum, fun _ hne => absurd hstatus hne, fun hs => ?_, fun _ => ⟨hsome, ?_, ?_⟩⟩
    · have : q.status = .partiallyRefunded := hs
      rw [hstatus] at this
      simp at this
    · show q.refundedCents = q.amount.cents
      rw [hcents, hamount]
      have hnot := hpartial.not.1 (by simp [hisPartial])
      omega
    · show (b.refunds ++ [plan]).length ≤ 2
      omega

/-- One call keeps the books balanced. -/
theorem Balanced.call {b : Books} (h : b.Balanced) (c : Call) : (b.call c).Balanced := by
  unfold Books.call
  cases hrun : c.run b.payment with
  | error e => exact h
  | ok r =>
    obtain ⟨q, plan⟩ := r
    have hgives := Call.gives_of_run hrun
    have hamount := hgives.sameIdentity.amount
    show Balanced ⟨q, b.refunds ++ plan.toList⟩
    cases hgives with
    | startProcessing hstatus =>
      rw [Option.toList_none, List.append_nil]
      exact h.move (.inl hstatus) ⟨nofun, nofun⟩ rfl
    | complete hstatus _ =>
      rw [Option.toList_none, List.append_nil]
      exact h.move (.inr hstatus) ⟨nofun, nofun⟩ rfl
    | fail hstatus =>
      rw [Option.toList_none, List.append_nil]
      exact h.move (.inr hstatus) ⟨nofun, nofun⟩ rfl
    | cancel hstatus =>
      rw [Option.toList_none, List.append_nil]
      exact h.move hstatus ⟨nofun, nofun⟩ rfl
    | refund hplan htotal => exact h.refund hplan htotal rfl rfl hamount
    | updateMetadata =>
      rw [Option.toList_none, List.append_nil]
      exact h.keep rfl rfl rfl
    | commitEvents =>
      rw [Option.toList_none, List.append_nil]
      exact h.keep rfl rfl rfl
    | reload =>
      rw [Option.toList_none, List.append_nil]
      exact h.keep rfl rfl rfl

theorem Balanced.callAll {b : Books} (h : b.Balanced) (calls : List Call) :
    (b.callAll calls).Balanced := by
  induction calls generalizing b with
  | nil => exact h
  | cons c rest ih => exact ih (h.call c)

/-! ## What balanced books say -/

theorem Balanced.refunded_eq_none_iff {b : Books} (h : b.Balanced) :
    b.payment.refunded = none ↔
      b.payment.status ≠ .partiallyRefunded ∧ b.payment.status ≠ .refunded := by
  constructor
  · intro hnone
    exact ⟨fun hs => (h.partially hs).1 hnone, fun hs => (h.fully hs).1 hnone⟩
  · rintro ⟨hp, hr⟩
    exact (h.unrefunded hp hr).1

/-- The sum that was paid back decides between the two refunded states. -/
theorem Balanced.status_iff {b : Books} (h : b.Balanced) {r : Amount}
    (hr : b.payment.refunded = some r) :
    r.cents ≤ b.payment.amount.cents ∧
      (r.cents = b.payment.amount.cents ↔ b.payment.status = .refunded) ∧
      (0 < r.cents ∧ r.cents < b.payment.amount.cents ↔
        b.payment.status = .partiallyRefunded) := by
  have hcents := refundedCents_of_some hr
  have hpos := r.cents_pos
  by_cases hp : b.payment.status = .partiallyRefunded
  · obtain ⟨-, hlt, -⟩ := h.partially hp
    rw [hcents] at hlt
    refine ⟨hlt.le, ?_, by simp [hp, hlt, hpos]⟩
    rw [hp]
    exact ⟨fun e => absurd e hlt.ne, nofun⟩
  by_cases hf : b.payment.status = .refunded
  · obtain ⟨-, heq, -⟩ := h.fully hf
    rw [hcents] at heq
    refine ⟨heq.le, by simp [hf, heq], ?_⟩
    rw [hf]
    exact ⟨fun ⟨_, hlt⟩ => absurd heq hlt.ne, nofun⟩
  · obtain ⟨hnone, -⟩ := h.unrefunded hp hf
    rw [hnone] at hr
    simp at hr

theorem Balanced.length_le {b : Books} (h : b.Balanced) : b.refunds.length ≤ 2 := by
  by_cases hp : b.payment.status = .partiallyRefunded
  · have := (h.partially hp).2.2
    omega
  by_cases hf : b.payment.status = .refunded
  · exact (h.fully hf).2.2
  · rw [(h.unrefunded hp hf).2]
    exact Nat.zero_le _

theorem Balanced.refundedCents_le {b : Books} (h : b.Balanced) :
    b.payment.refundedCents ≤ b.payment.amount.cents := by
  cases hr : b.payment.refunded with
  | none =>
    rw [refundedCents_of_none hr]
    exact Nat.zero_le _
  | some r =>
    rw [refundedCents_of_some hr]
    exact (h.status_iff hr).1

end Books

/-- **Conservation of money.** After any calls on a new payment, of which any may fail: something was
paid back exactly in the two refunded states; it is the exact sum of the amounts that the successful
refunds planned, at most two of them, and decides between these states; and it adds up with the
balance to the amount, with no balance left exactly when all was paid back. -/
theorem money_conserved (id : PaymentId) (now : Instant) (draft : Draft) (calls : List Call) :
    let books := (Books.opened (create id now draft)).callAll calls
    let p := books.payment
    p.amount = draft.amount ∧
    (p.refunded = none ↔ p.status ≠ .partiallyRefunded ∧ p.status ≠ .refunded) ∧
    (∀ r, p.refunded = some r →
      r.cents = (books.refunds.map fun plan => plan.amount.cents).sum ∧
      r.cents ≤ draft.amount.cents ∧
      (r.cents = draft.amount.cents ↔ p.status = .refunded) ∧
      (0 < r.cents ∧ r.cents < draft.amount.cents ↔ p.status = .partiallyRefunded)) ∧
    books.refunds.length ≤ 2 ∧
    (match p.refundable with
      | some balance => balance.cents + p.refundedCents = draft.amount.cents
      | none => p.refundedCents = draft.amount.cents) := by
  intro books p
  have h : books.Balanced := (Books.Balanced.opened rfl rfl).callAll calls
  have hamount : p.amount = draft.amount := by
    have hp : p = (create id now draft).afterAll calls := Books.callAll_payment _ calls
    rw [hp, (afterAll_sameIdentity _ calls).amount]
    rfl
  refine ⟨hamount, h.refunded_eq_none_iff, fun r hr => ?_, h.length_le, ?_⟩
  · have hsum : r.cents = books.refundSum := by
      rw [← h.sum, refundedCents_of_some hr]
    exact ⟨hsum, hamount ▸ h.status_iff hr⟩
  · rw [← hamount]
    cases hb : p.refundable with
    | some balance => exact cents_refundable hb
    | none => exact le_antisymm h.refundedCents_le (refundable_eq_none hb)

end Paydesk.Payment
