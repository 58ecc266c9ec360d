import Paydesk.Proofs.Service.Refunds
import Mathlib.Data.List.Nodup

/-!
# What providers pay back

A provider pays money back before the refund is saved, so two refunds that were checked against one
balance may both be approved, and more is paid back than was taken (`approvals_exceed_amount`). What
holds is that the approved refunds which could be saved stay within the amount of the payment, and
every other one belongs to a call that has not saved yet or was refused by the store and answers with
a failure (`saved_approvals_within`).
-/

namespace Paydesk

variable {ι γ π : Type}

/-! ## What a log says of approvals -/

/-- The approved refund of a payment that an entry tells of, with the one who has asked for it. -/
def Entry.approval (id : PaymentId) : Entry ι γ π → Option (ι × Amount)
  | .act i (.pay _ order (.ok reply)) =>
    if order.payment = id ∧ reply.isApproved = true then some (i, order.amount) else none
  | _ => none

/-- All refunds of a payment that a provider has approved. -/
def approvals (id : PaymentId) (log : List (Entry ι γ π)) : List (ι × Amount) :=
  log.filterMap (Entry.approval id)

theorem Entry.approval_eq_some {id : PaymentId} {e : Entry ι γ π} {i : ι} {a : Amount} :
    e.approval id = some (i, a) ↔
      ∃ gateway order reply, e = .act i (.pay gateway order (.ok reply)) ∧ order.payment = id ∧
        reply.isApproved = true ∧ order.amount = a := by
  constructor
  · intro h
    unfold approval at h
    split at h
    · rename_i j gateway order reply
      split at h
      · rename_i hgiven
        cases h
        exact ⟨gateway, order, reply, rfl, hgiven.1, hgiven.2, rfl⟩
      · simp at h
    · simp at h
  · rintro ⟨gateway, order, reply, rfl, hid, hgiven, rfl⟩
    exact if_pos ⟨hid, hgiven⟩

theorem mem_approvals {id : PaymentId} {log : List (Entry ι γ π)} {i : ι} {a : Amount} :
    (i, a) ∈ approvals id log ↔
      ∃ gateway order reply, Entry.act i (.pay gateway order (.ok reply)) ∈ log ∧
        order.payment = id ∧ reply.isApproved = true ∧ order.amount = a := by
  unfold approvals
  rw [List.mem_filterMap]
  constructor
  · rintro ⟨e, he, happroval⟩
    obtain ⟨gateway, order, reply, rfl, hgiven⟩ := Entry.approval_eq_some.1 happroval
    exact ⟨gateway, order, reply, he, hgiven⟩
  · rintro ⟨gateway, order, reply, he, hgiven⟩
    exact ⟨_, he, Entry.approval_eq_some.2 ⟨gateway, order, reply, rfl, hgiven⟩⟩

variable [DecidableEq ι]

/-- A save was accepted. -/
def Entry.isSaveOf (i : ι) : Entry ι γ π → Bool
  | .act j (.save _ (.ok _)) => j = i
  | _ => false

/-- An accepted save of the use case is in the log. -/
def hasSaved (log : List (Entry ι γ π)) (i : ι) : Bool :=
  log.any (Entry.isSaveOf i)

theorem hasSaved_iff {log : List (Entry ι γ π)} {i : ι} :
    hasSaved log i = true ↔ ∃ q version, Entry.act i (.save q (.ok version)) ∈ log := by
  unfold hasSaved
  rw [List.any_eq_true]
  constructor
  · rintro ⟨e, he, hsave⟩
    unfold Entry.isSaveOf at hsave
    split at hsave
    · obtain rfl := of_decide_eq_true hsave
      exact ⟨_, _, he⟩
    · simp at hsave
  · rintro ⟨q, version, he⟩
    exact ⟨_, he, decide_eq_true rfl⟩

/-! ## Stages with an approval -/

/-- A refund was approved and waits to be saved, or was saved. -/
def UseCase.Stage.Approved (id : PaymentId) (a : Amount) : UseCase.Stage → Prop
  | .approved p plan => p.id = id ∧ plan.amount = a
  | .stored q (some plan) => q.id = id ∧ plan.amount = a
  | _ => False

theorem UseCase.Step.approved {id : PaymentId} {a : Amount} {s t : UseCase.Stage} {b : Act γ π}
    (h : UseCase.Step s b t) (hs : s.Approved id a) :
    t.Approved id a ∨ ∃ q why, t = .refused q why := by
  cases s with
  | approved p plan =>
    cases h with
    | clock => exact .inl hs
    | warn => exact .inl hs
    | @refund _ q _ now reason version hgives =>
      cases version with
      | ok version => exact .inl ⟨hgives.sameIdentity.id.trans hs.1, hs.2⟩
      | error why => exact .inr ⟨q, why, rfl⟩
  | stored q plan => cases h <;> exact .inl hs
  | _ => exact hs.elim

section Runs

variable {useCases : ι → UseCase} {log : List (Entry ι γ π)} {stage : ι → UseCase.Stage}
  (h : Run UseCase.Step (fun i => .idle (useCases i).target) log stage)

include h

/-- An approved refund waits to be saved, or was saved, or its save was refused. -/
theorem stage_of_mem_approvals {id : PaymentId} {i : ι} {a : Amount}
    (hmem : (i, a) ∈ approvals id log) :
    (stage i).Approved id a ∨ ∃ q why, stage i = .refused q why := by
  obtain ⟨gateway, order, reply, hpay, hid, hgiven, hamount⟩ := mem_approvals.1 hmem
  refine h.of_mem (P := fun s => s.Approved id a ∨ ∃ q why, s = .refused q why)
    (fun s t hstep => ?_) (fun s b t hs hstep => ?_) hpay
  · cases hstep with
    | decline hrefused => simp [hrefused reply rfl] at hgiven
    | approve _ hpayment horder _ =>
      exact .inl ⟨hpayment.symm.trans hid, horder.symm.trans hamount⟩
  · rcases hs with hs | ⟨q, why, rfl⟩
    · exact hstep.approved hs
    · cases hstep <;> exact .inr ⟨q, why, rfl⟩

theorem mem_approvals_of_approved {id : PaymentId} {i : ι} {a : Amount}
    (hi : (stage i).Approved id a) : (i, a) ∈ approvals id log := by
  have hback : ∀ (s : UseCase.Stage) (b : Act γ π) (t : UseCase.Stage), UseCase.Step s b t →
      t.Approved id a → s.Approved id a ∨ ∃ gateway order reply,
        b = .pay gateway order (.ok reply) ∧ order.payment = id ∧ reply.isApproved = true ∧
          order.amount = a := by
    intro s b t hstep ht
    cases hstep with
    | approve _ hpayment horder hgiven =>
      exact .inr ⟨_, _, _, rfl, hpayment.trans ht.1, hgiven, horder.trans ht.2⟩
    | @refund p q plan now reason version hgives =>
      cases version with
      | ok version => exact .inl ⟨hgives.sameIdentity.id.symm.trans ht.1, ht.2⟩
      | error why => exact ht.elim
    | @create _ _ _ version => cases version <;> exact ht.elim
    | @change _ _ _ version _ => cases version <;> exact ht.elim
    | draw => exact ht.elim
    | miss => exact ht.elim
    | load _ => exact ht.elim
    | decline _ => exact ht.elim
    | _ => exact .inl ht
  obtain ⟨b, hmem, gateway, order, reply, rfl, hid, hgiven, hamount⟩ :=
    h.exists_mem (fun _ hinit => hinit) hback hi
  exact mem_approvals.2 ⟨gateway, order, reply, hmem, hid, hgiven, hamount⟩

theorem nodup_approvals (id : PaymentId) : ((approvals id log).map Prod.fst).Nodup := by
  induction h with
  | nil => exact List.nodup_nil
  | delete _ ih => exact ih
  | @act log stage i a t hrun _ hpermitted ih =>
    cases happroval : (Entry.act i a).approval id with
    | none =>
      unfold approvals
      rw [List.filterMap_cons_none happroval]
      exact ih
    | some r =>
      obtain ⟨j, b⟩ := r
      obtain ⟨gateway, order, reply, heq, -, hgiven, -⟩ := Entry.approval_eq_some.1 happroval
      cases heq
      unfold approvals
      rw [List.filterMap_cons_some happroval]
      refine List.nodup_cons.2 ⟨fun hmem => ?_, ih⟩
      obtain ⟨⟨j, c⟩, hbefore, rfl⟩ := List.mem_map.1 hmem
      -- who orders holds a copy and no approval yet
      have hj := stage_of_mem_approvals hrun hbefore
      generalize stage j = s at hpermitted hj
      cases hpermitted with
      | decline hrefused => simp [hrefused reply rfl] at hgiven
      | approve _ _ _ _ =>
        rcases hj with hj | ⟨_, _, hj⟩
        · exact hj
        · cases hj

/-- A save that was refused is the last that its use case has done. -/
theorem refused_of_mem_save {i : ι} {q : Payment} {why : Conflict}
    (hmem : Entry.act i (.save q (.error why)) ∈ log) :
    stage i = .refused q why := by
  refine h.of_mem (P := fun s => s = .refused q why) (fun s t hstep => ?_)
    (fun s b t hs hstep => ?_) hmem
  · cases hstep <;> rfl
  · subst hs
    cases hstep <;> rfl

theorem mem_save_of_refused {i : ι} {q : Payment} {why : Conflict}
    (hi : stage i = .refused q why) :
    Entry.act i (.save q (.error why)) ∈ log := by
  have hback : ∀ (s : UseCase.Stage) (a : Act γ π) (t : UseCase.Stage), UseCase.Step s a t →
      t = .refused q why → s = .refused q why ∨ a = .save q (.error why) := by
    intro s a t hstep ht
    subst ht
    rcases hstep.ends with hsame | ⟨p, plan, version, rfl, hsaved⟩ | ⟨-, hother⟩
    · exact .inl hsame.symm
    · cases version with
      | ok v => cases hsaved
      | error why =>
        cases hsaved
        exact .inr rfl
    · exact absurd rfl (hother q why)
  obtain ⟨a, hmem, rfl⟩ := h.exists_mem (fun _ => by simp) hback hi
  exact hmem

theorem ended_of_mem_save {i : ι} {q : Payment} {version : Except Conflict Nat}
    (hmem : Entry.act i (.save q version) ∈ log) : ∃ plan, stage i = .saved q plan version := by
  cases version with
  | ok version => exact stored_of_mem_save h hmem
  | error why => exact ⟨none, refused_of_mem_save h hmem⟩

/-- The approved refunds that were saved are the refunds that were stored. -/
theorem saved_approvals_perm (id : PaymentId) :
    ((approvals id log).filter fun r => hasSaved log r.1).Perm (refundsOf id log) := by
  refine (List.perm_ext_iff_of_nodup ?_ ?_).2 fun r => ?_
  · exact (List.Nodup.of_map _ (nodup_approvals h id)).filter _
  · exact List.Nodup.of_map _ (nodup_refundsOf h id)
  · obtain ⟨i, a⟩ := r
    rw [List.mem_filter, mem_refundsOf_iff h, hasSaved_iff]
    constructor
    · rintro ⟨happroved, q, version, hmem⟩
      obtain ⟨plan, hi⟩ := stored_of_mem_save h hmem
      rcases stage_of_mem_approvals h happroved with hs | ⟨_, _, hs⟩
      · rw [hi] at hs
        cases plan with
        | none => exact hs.elim
        | some plan => exact ⟨_, plan, hi, hs⟩
      · rw [hi] at hs
        cases hs
    · rintro ⟨q, plan, hi, hs⟩
      obtain ⟨p, version, hmem, -⟩ := mem_save_of_stored h hi
      refine ⟨mem_approvals_of_approved h ?_, p, version, hmem⟩
      rw [hi]
      exact hs

end Runs

/-- **What is paid back and stored stays within the amount.** Any number of refunds and other
commands on any payments, in any order of their steps. The refunds of a payment that a provider has
approved and whose calls have saved sum up to what the payment says was paid back, which is not more
than its amount. Every other approved refund is one of a call that has not saved yet and is not done,
or of a call whose save was refused, which answers with a failure. -/
theorem saved_approvals_within (desk : Desk γ π) (useCases : ι → UseCase)
    (steps : List (ι × Outside)) (id : PaymentId) :
    let floor := Floor.play (fun i => (useCases i).workflow desk)
      (steps.map fun step => .step step.1 step.2)
    ((approvals id floor.log).map Prod.fst).Nodup ∧
    (∀ p, floor.store.find? id = some p →
      sumCents ((approvals id floor.log).filter fun r => hasSaved floor.log r.1) =
        p.refundedCents ∧ p.refundedCents ≤ p.amount.cents) ∧
    ∀ i a, (i, a) ∈ approvals id floor.log → hasSaved floor.log i = false →
      ((∀ q version, Entry.act i (.save q version) ∉ floor.log) ∧
        (floor.running i).isDone = false) ∨
      ((∃ q why, Entry.act i (.save q (.error why)) ∈ floor.log) ∧
        ∀ outcome, floor.running i = .done (.refund outcome) → outcome.isSuccess = false) := by
  intro floor
  obtain ⟨stage, hrun, hkeeps⟩ := exists_run_play (fun i => (useCases i).keeps desk)
    (steps.map fun step => .step step.1 step.2)
  change Run _ _ floor.log stage at hrun
  have hsettled := settled_of_run hrun (delete_not_mem_play _ steps)
  have hfits : ∀ i answer, floor.running i = .done answer → (stage i).Fits answer :=
    fun i _ hi => UseCase.fits_of_done (hkeeps i) hi
  refine ⟨nodup_approvals hrun id, fun p hp => ?_, fun i a hmem hunsaved => ?_⟩
  · rw [store_play] at hp
    have hsum := ((saved_approvals_perm hrun id).map fun r => r.2.cents).sum_nat
    exact ⟨hsum.trans (hsettled.sum id p hp).symm, hsettled.within id p hp⟩
  · rcases stage_of_mem_approvals hrun hmem with hs | ⟨q, why, hi⟩
    · left
      cases hi : stage i with
      | approved p plan =>
        refine ⟨fun q version hsave => ?_, ?_⟩
        · obtain ⟨plan', hsaved⟩ := ended_of_mem_save hrun hsave
          rw [hi] at hsaved
          cases version <;> cases hsaved
        · by_contra hdone
          obtain ⟨answer, hanswer⟩ := Workflow.eq_done_of_isDone (Bool.not_eq_false _ ▸ hdone)
          have hfit := hfits i answer hanswer
          rw [hi] at hfit
          cases hfit with
          | error hfree => exact hfree
          | failure hfree => exact hfree
      | stored q plan =>
        obtain ⟨p, version, hsave, -⟩ := mem_save_of_stored hrun hi
        rw [hasSaved_iff.2 ⟨p, version, hsave⟩] at hunsaved
        cases hunsaved
      | _ =>
        rw [hi] at hs
        exact hs.elim
    · right
      refine ⟨⟨q, why, mem_save_of_refused hrun hi⟩, fun outcome hanswer => ?_⟩
      rcases (hfits i _ hanswer).refund_cases rfl with ⟨_, _, _, hstored, -⟩ | ⟨-, _, _, rfl⟩
      · rw [hi] at hstored
        cases hstored
      · rfl

/-- Two refunds of all of a payment of one hundred dollars, of which both are approved before one of
them is saved: two hundred dollars are paid back. -/
theorem approvals_exceed_amount :
    let floor := Floor.play (fun i => (UseCase.racing i).workflow Desk.plain)
      (UseCase.race.map fun step => .step step.1 step.2)
    ∃ p, floor.store.find? .first = some p ∧ p.amount.cents = 10000 ∧
      sumCents (approvals .first floor.log) = 20000 := by
  intro floor
  have hsum : sumCents (approvals .first floor.log) = 20000 := by decide +kernel
  have hstored : (floor.store.find? .first).map (fun p => p.amount.cents) = some 10000 := by
    decide +kernel
  obtain ⟨p, hp, hamount⟩ := Option.map_eq_some_iff.1 hstored
  exact ⟨p, hp, hamount, hsum⟩

end Paydesk
