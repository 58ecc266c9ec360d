import Paydesk.Proofs.Payment.Balance
import Mathlib.Data.List.Chain

/-!
# The history of a payment

What the state of a payment says of its other fields, and what its dates say of one another.

1. Which dates, which names and which reasons are set follows from the state alone
   (`Payment.IsConsistent`), and every call keeps it so (`Call.Gives.consistent`).
2. A command follows an edge of the graph of states (`Call.Gives.follows`), and every edge leads to a
   higher rank, so at most four commands can succeed one after the other
   (`length_le_of_follows`).
3. A call that is dated after all that was done before keeps the dates in order
   (`Call.Gives.chronological`).
-/

namespace Paydesk

/-! ## States -/

namespace Status

/-- The provider has taken the money, whether or not it was paid back. -/
def isCaptured : Status → Bool
  | .completed | .partiallyRefunded | .refunded => true
  | _ => false

/-- Money was paid back. -/
def isPaidBack : Status → Bool
  | .partiallyRefunded | .refunded => true
  | _ => false

/-- The payment has come to nothing. -/
def isVoid : Status → Bool
  | .failed | .cancelled => true
  | _ => false

/-- How many changes lead to a state at most. -/
def rank : Status → Nat
  | .pending => 0
  | .processing => 1
  | .completed | .failed | .cancelled => 2
  | .partiallyRefunded => 3
  | .refunded => 4

theorem rank_lt_of_allows {s t : Status} (h : s.allows t = true) : s.rank < t.rank := by
  revert h
  cases s <;> cases t <;> decide

theorem rank_le (s : Status) : s.rank ≤ 4 := by
  cases s <;> decide

theorem not_allows_of_final {s : Status} (h : s = .failed ∨ s = .cancelled ∨ s = .refunded)
    (t : Status) : ¬ s.allows t = true := by
  rcases h with rfl | rfl | rfl <;> simp [allows, successors]

end Status

namespace Payment

/-! ## What a state says -/

/-- The fields that only some states have are set in these states and in no other. -/
structure IsConsistent (p : Payment) : Prop where
  completed : p.completedAt.isSome = p.status.isCaptured
  transaction : p.transaction.isSome = p.status.isCaptured
  named : ∀ name ∈ p.transaction, Text.isBlankText name = false
  failed : p.failedAt.isSome = decide (p.status = .failed)
  refunded : p.refundedAt.isSome = p.status.isPaidBack
  reason : p.reason.isSome = p.status.isVoid

theorem consistent_create (id : PaymentId) (now : Instant) (draft : Draft) :
    (create id now draft).IsConsistent :=
  ⟨rfl, rfl, nofun, rfl, rfl, rfl⟩

theorem IsConsistent.saved {p : Payment} (h : p.IsConsistent) (version : Nat) :
    (p.withVersion version).commitEvents.IsConsistent :=
  ⟨h.completed, h.transaction, h.named, h.failed, h.refunded, h.reason⟩

theorem Call.Gives.consistent {p q : Payment} {c : Call} {plan : Option RefundPlan}
    (h : Gives p c q plan) (hp : p.IsConsistent) : q.IsConsistent := by
  obtain ⟨hcompleted, htransaction, hnamed, hfailed, hrefunded, hreason⟩ := hp
  cases h with
  | startProcessing hstatus =>
    rw [hstatus] at hcompleted htransaction hfailed hrefunded hreason
    exact ⟨hcompleted, htransaction, hnamed, hfailed, hrefunded, hreason⟩
  | complete hstatus hgiven =>
    rw [hstatus] at hfailed hrefunded hreason
    refine ⟨rfl, rfl, fun name hname => ?_, hfailed, hrefunded, hreason⟩
    exact Option.some.inj hname ▸ hgiven
  | fail hstatus =>
    rw [hstatus] at hcompleted htransaction hrefunded
    exact ⟨hcompleted, htransaction, hnamed, rfl, hrefunded, rfl⟩
  | cancel hstatus =>
    rcases hstatus with hstatus | hstatus <;>
      rw [hstatus] at hcompleted htransaction hfailed hrefunded <;>
      exact ⟨hcompleted, htransaction, hnamed, hfailed, hrefunded, rfl⟩
  | refund hplan _ =>
    rcases planRefund_status hplan with ⟨hstatus, -, htarget⟩ | ⟨hstatus | hstatus, -, htarget⟩ <;>
      rw [hstatus] at hcompleted htransaction hfailed hreason <;>
      rw [htarget] <;>
      exact ⟨hcompleted, htransaction, hnamed, hfailed, rfl, hreason⟩
  | updateMetadata => exact ⟨hcompleted, htransaction, hnamed, hfailed, hrefunded, hreason⟩
  | commitEvents => exact ⟨hcompleted, htransaction, hnamed, hfailed, hrefunded, hreason⟩
  | reload => exact ⟨hcompleted, htransaction, hnamed, hfailed, hrefunded, hreason⟩

theorem IsConsistent.after {p : Payment} (h : p.IsConsistent) (c : Call) :
    (p.after c).IsConsistent := by
  unfold Payment.after
  cases hrun : c.run p with
  | error e => exact h
  | ok r => exact (Call.gives_of_run hrun).consistent h

/-! ## Commands -/

/-- The time at which a call is made, if it is dated. -/
def Call.time : Call → Option Instant
  | .startProcessing now => some now
  | .complete now _ _ => some now
  | .fail now _ _ => some now
  | .cancel now _ => some now
  | .refund now _ _ => some now
  | .updateMetadata now _ => some now
  | .commitEvents => none
  | .reload => none

/-- The call is to change the state of the payment. -/
def Call.IsCommand : Call → Prop
  | .updateMetadata _ _ | .commitEvents | .reload => False
  | _ => True

theorem Call.Gives.updatedAt {p q : Payment} {c : Call} {plan : Option RefundPlan}
    (h : Gives p c q plan) : q.updatedAt = c.time.getD p.updatedAt := by
  cases h <;> rfl

theorem Call.Gives.allows {p q : Payment} {c : Call} {plan : Option RefundPlan}
    (h : Gives p c q plan) (hcommand : c.IsCommand) : p.status.allows q.status = true := by
  cases h with
  | startProcessing hstatus => exact Status.allows_processing.2 hstatus
  | complete hstatus _ => exact Status.allows_completed.2 hstatus
  | fail hstatus => exact Status.allows_failed.2 hstatus
  | cancel hstatus => exact Status.allows_cancelled.2 hstatus
  | refund hplan _ =>
    obtain ⟨-, -, -, -, -, -, -, hallows⟩ := planRefund_ok hplan
    exact hallows
  | updateMetadata => exact hcommand.elim
  | commitEvents => exact hcommand.elim
  | reload => exact hcommand.elim

/-- The two are states of one payment: they differ in nothing but what commands may change, and in
their versions. -/
def Akin (p q : Payment) : Prop :=
  SameIdentity p (q.withVersion p.version)

theorem Akin.refl (p : Payment) : Akin p p :=
  SameIdentity.refl p

theorem Akin.symm {p q : Payment} (h : Akin p q) : Akin q p :=
  ⟨h.id.symm, h.tenant.symm, h.provider.symm, h.amount.symm, h.currency.symm, h.order.symm,
    h.reference.symm, h.createdAt.symm, rfl⟩

theorem Akin.trans {p q r : Payment} (h : Akin p q) (h' : Akin q r) : Akin p r :=
  ⟨h'.id.trans h.id, h'.tenant.trans h.tenant, h'.provider.trans h.provider,
    h'.amount.trans h.amount, h'.currency.trans h.currency, h'.order.trans h.order,
    h'.reference.trans h.reference, h'.createdAt.trans h.createdAt, rfl⟩

theorem SameIdentity.akin {p q : Payment} (h : SameIdentity p q) (version : Nat) :
    Akin p (q.withVersion version).commitEvents :=
  ⟨h.id, h.tenant, h.provider, h.amount, h.currency, h.order, h.reference, h.createdAt, rfl⟩

/-- The second state of a payment is the first one after one more command: one edge and one version
further. -/
structure Follows (p q : Payment) : Prop where
  edge : p.status.allows q.status = true
  version : q.version = p.version + 1
  akin : Akin p q

/-- What a command gives follows the payment that it was given for once it is saved. -/
theorem Call.Gives.follows {p q : Payment} {c : Call} {plan : Option RefundPlan}
    (h : Gives p c q plan) (hcommand : c.IsCommand) :
    Follows p (q.withVersion (p.version + 1)).commitEvents :=
  ⟨h.allows hcommand, rfl, h.sameIdentity.akin _⟩

theorem length_add_rank_le {p : Payment} {states : List Payment}
    (h : (p :: states).IsChain Follows) : states.length + p.status.rank ≤ 4 := by
  induction states generalizing p with
  | nil => simpa using p.status.rank_le
  | cons q rest ih =>
    obtain ⟨hfollows, hrest⟩ := List.isChain_cons_cons.1 h
    have hrank := Status.rank_lt_of_allows hfollows.edge
    have hlength := ih hrest
    rw [List.length_cons]
    omega

/-- No payment goes through more than five states. -/
theorem length_le_of_follows {states : List Payment} (h : states.IsChain Follows) :
    states.length ≤ 5 := by
  cases states with
  | nil => exact Nat.zero_le 5
  | cons p rest =>
    have hrank := length_add_rank_le h
    rw [List.length_cons]
    omega

theorem akin_of_follows {p : Payment} {states : List Payment}
    (h : (p :: states).IsChain Follows) {q : Payment} (hq : q ∈ p :: states) : Akin p q := by
  induction states generalizing p with
  | nil => exact List.mem_singleton.1 hq ▸ .refl p
  | cons r rest ih =>
    obtain ⟨hfollows, hrest⟩ := List.isChain_cons_cons.1 h
    rcases List.mem_cons.1 hq with rfl | hq
    · exact .refl q
    · exact hfollows.akin.trans (ih hrest hq)

theorem akin_of_mem {states : List Payment} (h : states.IsChain Follows) {p q : Payment}
    (hp : p ∈ states) (hq : q ∈ states) : Akin p q := by
  cases states with
  | nil => exact absurd hp List.not_mem_nil
  | cons first rest => exact (akin_of_follows h hp).symm.trans (akin_of_follows h hq)

/-- A payment never comes back to a state. -/
theorem nodup_status_of_follows {states : List Payment} (h : states.IsChain Follows) :
    (states.map fun p => p.status).Nodup := by
  have hranks : (states.map fun p => p.status.rank).IsChain (· < ·) :=
    List.isChain_map_of_isChain _ (fun _ _ hfollows => Status.rank_lt_of_allows hfollows.edge) h
  have hrising : states.Pairwise fun p q => p.status.rank < q.status.rank :=
    List.pairwise_map.1 (List.isChain_iff_pairwise.1 hranks)
  refine List.pairwise_map.2 (hrising.imp fun hlt heq => ?_)
  rw [heq] at hlt
  exact Nat.lt_irrefl _ hlt

theorem getLast?_of_follows {p : Payment} {states : List Payment} (h : states.IsChain Follows)
    (hp : p ∈ states) (hfinal : ∀ t, ¬ p.status.allows t = true) : states.getLast? = some p := by
  induction states with
  | nil => exact absurd hp List.not_mem_nil
  | cons q rest ih =>
    cases rest with
    | nil => rw [List.mem_singleton.1 hp, List.getLast?_singleton]
    | cons r rest =>
      obtain ⟨hfollows, hrest⟩ := List.isChain_cons_cons.1 h
      rw [List.getLast?_cons_cons]
      rcases List.mem_cons.1 hp with rfl | hp
      · exact absurd hfollows.edge (hfinal r.status)
      · exact ih hrest hp

/-! ## Dates -/

/-- The dates of what was done with the payment, in the order in which it has to be done. -/
def milestones (p : Payment) : List Instant :=
  p.createdAt :: (p.completedAt.toList ++ p.refundedAt.toList ++ [p.updatedAt])

/-- The dates of a payment that may have failed, in the order in which it has to be done. -/
def downfall (p : Payment) : List Instant :=
  p.createdAt :: (p.failedAt.toList ++ [p.updatedAt])

/-- The dates that are set are in order. -/
structure IsChronological (p : Payment) : Prop where
  milestones : p.milestones.Pairwise (· ≤ ·)
  downfall : p.downfall.Pairwise (· ≤ ·)

theorem chronological_create (id : PaymentId) (now : Instant) (draft : Draft) :
    (create id now draft).IsChronological := by
  have horder : [now, now].Pairwise (· ≤ ·) := by simp
  exact ⟨horder, horder⟩

theorem IsChronological.saved {p : Payment} (h : p.IsChronological) (version : Nat) :
    (p.withVersion version).commitEvents.IsChronological :=
  ⟨h.milestones, h.downfall⟩

theorem IsChronological.createdAt_le {p : Payment} (h : p.IsChronological) :
    p.createdAt ≤ p.updatedAt :=
  (List.pairwise_cons.1 h.downfall).1 _ (by simp)

theorem IsChronological.completedAt_le {p : Payment} (h : p.IsChronological) {time : Instant}
    (htime : p.completedAt = some time) : p.createdAt ≤ time ∧ time ≤ p.updatedAt := by
  have horder := h.milestones
  unfold Payment.milestones at horder
  rw [htime] at horder
  obtain ⟨hfirst, hrest⟩ := List.pairwise_cons.1 horder
  exact ⟨hfirst time (by simp), (List.pairwise_cons.1 hrest).1 _ (by simp)⟩

/-- The last of some dates in order may be put off. -/
theorem pairwise_put_off (dates : List Instant) {last now : Instant}
    (h : (dates ++ [last]).Pairwise (· ≤ ·)) (hnow : last ≤ now) :
    (dates ++ [now]).Pairwise (· ≤ ·) := by
  rw [List.pairwise_append] at h ⊢
  obtain ⟨hdates, -, hlast⟩ := h
  refine ⟨hdates, List.pairwise_singleton _ _, fun time htime next hnext => ?_⟩
  rw [List.mem_singleton.1 hnext]
  exact Instant.le_trans (hlast time htime last List.mem_cons_self) hnow

/-- A call that is dated after the last one keeps the dates in order. -/
theorem Call.Gives.chronological {p q : Payment} {c : Call} {plan : Option RefundPlan}
    (h : Gives p c q plan) (hconsistent : p.IsConsistent) (hp : p.IsChronological)
    (hlater : ∀ now, c.time = some now → p.updatedAt ≤ now) : q.IsChronological := by
  have hcreated : ∀ now, c.time = some now → p.createdAt ≤ now := fun now hnow =>
    Instant.le_trans hp.createdAt_le (hlater now hnow)
  have hput : ∀ now, c.time = some now →
      (p.createdAt :: (p.completedAt.toList ++ p.refundedAt.toList ++ [now])).Pairwise (· ≤ ·) ∧
      (p.createdAt :: (p.failedAt.toList ++ [now])).Pairwise (· ≤ ·) := fun now hnow =>
    ⟨pairwise_put_off (p.createdAt :: (p.completedAt.toList ++ p.refundedAt.toList)) hp.milestones
        (hlater now hnow),
      pairwise_put_off (p.createdAt :: p.failedAt.toList) hp.downfall (hlater now hnow)⟩
  cases h with
  | @startProcessing now _ => exact ⟨(hput now rfl).1, (hput now rfl).2⟩
  | @complete now _ _ hstatus _ =>
    -- in this state nothing was paid back
    have hrefunded : p.refundedAt = none := by
      simpa [hstatus, Status.isPaidBack] using hconsistent.refunded
    refine ⟨?_, (hput now rfl).2⟩
    show (p.createdAt :: ([now] ++ p.refundedAt.toList ++ [now])).Pairwise (· ≤ ·)
    simp [hrefunded, hcreated now rfl]
  | @fail now _ _ _ =>
    refine ⟨(hput now rfl).1, ?_⟩
    show [p.createdAt, now, now].Pairwise (· ≤ ·)
    simp [hcreated now rfl]
  | @cancel now _ _ => exact ⟨(hput now rfl).1, (hput now rfl).2⟩
  | @refund now _ _ plan _ hplan _ =>
    -- in this state the money was taken
    have hcaptured : p.completedAt.isSome = true := by
      rw [hconsistent.completed]
      rcases planRefund_status hplan with ⟨hstatus, -⟩ | ⟨hstatus | hstatus, -⟩ <;>
        rw [hstatus] <;> rfl
    obtain ⟨taken, htaken⟩ := Option.isSome_iff_exists.1 hcaptured
    obtain ⟨hfirst, hlast⟩ := hp.completedAt_le htaken
    refine ⟨?_, (hput now rfl).2⟩
    show (p.createdAt :: (p.completedAt.toList ++ [now] ++ [now])).Pairwise (· ≤ ·)
    simp [htaken, hcreated now rfl, hfirst, Instant.le_trans hlast (hlater now rfl)]
  | @updateMetadata now _ => exact ⟨(hput now rfl).1, (hput now rfl).2⟩
  | commitEvents => exact ⟨hp.milestones, hp.downfall⟩
  | reload => exact ⟨hp.milestones, hp.downfall⟩

end Payment

end Paydesk
