import Paydesk.Proofs.Service.Course

/-!
# Concurrent refunds settle consistently

Any number of use cases over one store, in any order of their steps. Several refunds may be checked
against one balance and approved by a provider before any of them saves; what is stored is right all
the same: `refunds_settle`.

1. An accepted save of a refund was planned on the payment that was stored at that moment, so it adds
   its amount to the sum that was stored, within the amount of the payment (`Settled`).
2. A use case stores one refund at most, of the payment that it is about, and its answer tells what
   it has stored (`Stage.Sound`, `mem_refundsOf_iff`).
-/

namespace Paydesk

variable {ι γ π : Type}

/-! ## What a log says of refunds -/

/-- The amount that a change pays back. -/
def Change.paidBack : Change → Option Amount
  | .refunded amount _ _ => some amount
  | _ => none

/-- The amounts that were paid back by what the waiting events of a payment tell. -/
def Payment.paidBack (q : Payment) : List Amount :=
  q.events.filterMap fun e => e.change.paidBack

/-- The refunds of a payment that an entry stores, with the one who stores them. -/
def Entry.refunds (id : PaymentId) : Entry ι γ π → List (ι × Amount)
  | .act i (.save q (.ok _)) => if q.id = id then q.paidBack.map fun a => (i, a) else []
  | _ => []

theorem Entry.refunds_save (id : PaymentId) (i : ι) (q : Payment) (version : Nat) :
    (Entry.act i (.save q (.ok version)) : Entry ι γ π).refunds id =
      if q.id = id then q.paidBack.map fun a => (i, a) else [] := rfl

/-- All refunds of a payment that were stored. -/
def refundsOf (id : PaymentId) (log : List (Entry ι γ π)) : List (ι × Amount) :=
  log.flatMap (Entry.refunds id)

/-- The sum of refunds, in cents. -/
def sumCents (refunds : List (ι × Amount)) : Nat :=
  (refunds.map fun r => r.2.cents).sum

theorem sumCents_append (refunds more : List (ι × Amount)) :
    sumCents (refunds ++ more) = sumCents refunds + sumCents more := by
  unfold sumCents
  rw [List.map_append, List.sum_append]

theorem sumCents_eq_zero {refunds : List (ι × Amount)} (h : sumCents refunds = 0) :
    refunds = [] := by
  cases refunds with
  | nil => rfl
  | cons r rest =>
    have hpos := r.2.cents_pos
    unfold sumCents at h
    rw [List.map_cons, List.sum_cons] at h
    omega

theorem refundsOf_cons (id : PaymentId) (e : Entry ι γ π) (log : List (Entry ι γ π)) :
    refundsOf id (e :: log) = e.refunds id ++ refundsOf id log :=
  List.flatMap_cons

theorem mem_refundsOf {id : PaymentId} {log : List (Entry ι γ π)} {i : ι} {a : Amount} :
    (i, a) ∈ refundsOf id log ↔
      ∃ q version, Entry.act i (.save q (.ok version)) ∈ log ∧ q.id = id ∧ a ∈ q.paidBack := by
  unfold refundsOf
  rw [List.mem_flatMap]
  constructor
  · rintro ⟨e, he, hrefund⟩
    unfold Entry.refunds at hrefund
    split at hrefund
    · rename_i j q version
      split at hrefund
      · rename_i hid
        obtain ⟨b, hb, heq⟩ := List.mem_map.1 hrefund
        cases heq
        exact ⟨q, version, he, hid, hb⟩
      · simp at hrefund
    · simp at hrefund
  · rintro ⟨q, version, he, hid, ha⟩
    refine ⟨_, he, ?_⟩
    rw [Entry.refunds_save, if_pos hid]
    exact List.mem_map.2 ⟨a, ha, rfl⟩

/-! ## What a call does to the money -/

namespace Payment

theorem Call.Gives.refunded_of_none {p q : Payment} {c : Call} (h : Gives p c q none) :
    q.refunded = p.refunded := by
  cases h <;> rfl

theorem Call.Gives.paidBack_of_none {p q : Payment} {c : Call} (h : Gives p c q none)
    (hquiet : p.events = []) : q.paidBack = [] := by
  cases h <;>
    simp [paidBack, record, eventOf, note, annotate, Payment.updateMetadata, Payment.commitEvents,
      restore, Change.paidBack, hquiet]

theorem Call.Gives.paidBack_of_some {p q : Payment} {c : Call} {plan : RefundPlan}
    (h : Gives p c q (some plan)) (hquiet : p.events = []) : q.paidBack = [plan.amount] := by
  cases h
  simp [paidBack, record, eventOf, Change.paidBack, hquiet]

theorem Call.Gives.status_of_some {p q : Payment} {c : Call} {plan : RefundPlan}
    (h : Gives p c q (some plan)) :
    q.status = if plan.isPartial then .partiallyRefunded else .refunded := by
  cases h with
  | refund hplan _ =>
    obtain ⟨-, -, -, -, -, htarget, -⟩ := planRefund_ok hplan
    exact htarget

theorem Call.Gives.refundedCents_of_some {p q : Payment} {c : Call} {plan : RefundPlan}
    (h : Gives p c q (some plan)) :
    q.refundedCents = plan.amount.cents + p.refundedCents ∧ q.refundedCents ≤ q.amount.cents := by
  have hamount := h.sameIdentity.amount
  cases h with
  | @refund now amount reason plan total hplan htotal =>
    have hle := (planRefund_cents hplan).1
    have hsum := refundedAfter_cents htotal
    refine ⟨?_, ?_⟩
    · show total.cents = _
      omega
    · show total.cents ≤ p.amount.cents
      omega

end Payment

/-! ## What is stored accounts for all refunds -/

/-- The stored sum of a payment is that of all refunds that were stored of it. -/
structure Settled (log : List (Entry ι γ π)) : Prop where
  absent : ∀ id, (replay log).find? id = none → refundsOf id log = []
  sum : ∀ id p, (replay log).find? id = some p → p.refundedCents = sumCents (refundsOf id log)
  within : ∀ id p, (replay log).find? id = some p → p.refundedCents ≤ p.amount.cents

namespace Settled

variable {log : List (Entry ι γ π)}

theorem nil : Settled ([] : List (Entry ι γ π)) where
  absent _ _ := rfl
  sum _ _ hp := by simp [replay] at hp
  within _ _ hp := by simp [replay] at hp

theorem idle (h : Settled log) {e : Entry ι γ π} (htouch : ∀ id, ¬ e.Touches id)
    (hrefunds : ∀ id, e.refunds id = []) : Settled (e :: log) := by
  have hsame : ∀ id, refundsOf id (e :: log) = refundsOf id log := by
    intro id
    rw [refundsOf_cons, hrefunds, List.nil_append]
  constructor
  case absent =>
    intro id hnone
    rw [hsame]
    exact h.absent id (find?_replay_cons (htouch id) log ▸ hnone)
  case sum =>
    intro id p hp
    rw [hsame]
    exact h.sum id p (find?_replay_cons (htouch id) log ▸ hp)
  case within =>
    intro id p hp
    exact h.within id p (find?_replay_cons (htouch id) log ▸ hp)

/-- An accepted save of a payment that accounts for what its events tell was paid back. -/
theorem write (h : Settled log) {i : ι} {q : Payment} {version : Nat}
    (hsum : q.refundedCents =
      (q.paidBack.map Amount.cents).sum + sumCents (refundsOf q.id log))
    (hwithin : q.refundedCents ≤ q.amount.cents) :
    Settled (.act i (.save q (.ok version)) :: log) := by
  have hstored := find?_replay_save i q version log
  have hrefunds : ∀ id, refundsOf id (.act i (.save q (.ok version)) :: log) =
      if q.id = id then (q.paidBack.map fun a => (i, a)) ++ refundsOf id log
      else refundsOf id log := by
    intro id
    rw [refundsOf_cons, Entry.refunds_save]
    split <;> rfl
  constructor
  case absent =>
    intro id hnone
    rw [hstored] at hnone
    split at hnone
    · simp at hnone
    · rename_i hid
      rw [hrefunds, if_neg hid]
      exact h.absent id hnone
  case sum =>
    intro id p hp
    rw [hstored] at hp
    rw [hrefunds]
    split at hp
    · rename_i hid
      subst hid
      obtain rfl := Option.some.inj hp
      rw [if_pos rfl, sumCents_append]
      unfold sumCents at hsum ⊢
      rw [List.map_map]
      exact hsum
    · rename_i hid
      rw [if_neg hid]
      exact h.sum id p hp
  case within =>
    intro id p hp
    rw [hstored] at hp
    split at hp
    · obtain rfl := Option.some.inj hp
      exact hwithin
    · exact h.within id p hp

theorem refunded_eq_none_iff (h : Settled log) {id : PaymentId} {p : Payment}
    (hp : (replay log).find? id = some p) : p.refunded = none ↔ refundsOf id log = [] := by
  have hsum := h.sum id p hp
  constructor
  · intro hnone
    rw [Payment.refundedCents_of_none hnone] at hsum
    exact sumCents_eq_zero hsum.symm
  · intro hnone
    rw [hnone] at hsum
    cases hr : p.refunded with
    | none => rfl
    | some r =>
      rw [Payment.refundedCents_of_some hr] at hsum
      exact absurd hsum r.cents_pos.ne'

end Settled

/-- A step of a use case keeps what is stored in account. -/
theorem Settled.act {log : List (Entry ι γ π)} {stage : ι → UseCase.Stage} {i : ι} {a : Act γ π}
    {t : UseCase.Stage} (h : Settled log) (horderly : Orderly log fun i => (stage i).hold)
    (hu : Unreborn log) (hfits : a.Fits (replay log)) (hpermitted : UseCase.Step (stage i) a t) :
    Settled (.act i a :: log) := by
  cases a with
  | save q version =>
    cases version with
    | error why => exact h.idle (fun _ htouch => htouch) fun _ => rfl
    | ok version =>
      -- a copy that may be saved is what is stored
      have hcurrent : ∀ {p}, (stage i).hold = .copy p → Payment.SameIdentity p q →
          (replay log).find? q.id = some p ∧ p.events = [] := by
        intro p hhold hsame
        have hp := (horderly.version_of_copy hhold hsame.id hsame.version hfits.symm).1
        rw [← hsame.id] at hp
        exact ⟨hp, (find?_replay hp).2⟩
      generalize hi : stage i = s at hpermitted
      have hhold : (stage i).hold = s.hold := congrArg UseCase.Stage.hold hi
      cases hpermitted with
      | @create id now draft _ =>
        have hnil := (horderly.version_of_named hu hhold rfl hfits.symm).1
        have hnone : refundsOf id log = [] := by
          cases hfind : (replay log).find? id with
          | none => exact h.absent id hfind
          | some p =>
            have hhead := horderly.current id p hfind
            rw [show writesOf id log = [] from hnil] at hhead
            simp at hhead
        refine h.write ?_ (Nat.zero_le _)
        show 0 = 0 + sumCents (refundsOf id log)
        rw [hnone]
        rfl
      | @change p _ c _ hgives =>
        obtain ⟨hp, hquiet⟩ := hcurrent hhold hgives.sameIdentity
        have hsame : q.refundedCents = p.refundedCents := by
          unfold Payment.refundedCents
          rw [hgives.refunded_of_none]
        refine h.write ?_ ?_
        · rw [hgives.paidBack_of_none hquiet, hsame, h.sum _ p hp]
          exact (Nat.zero_add _).symm
        · rw [hsame, hgives.sameIdentity.amount]
          exact h.within _ p hp
      | @refund p _ plan now reason _ hgives =>
        obtain ⟨hp, hquiet⟩ := hcurrent hhold hgives.sameIdentity
        obtain ⟨hsum, hwithin⟩ := hgives.refundedCents_of_some
        refine h.write ?_ hwithin
        rw [hgives.paidBack_of_some hquiet, hsum, h.sum _ p hp]
        rfl
  | _ => exact h.idle (fun _ htouch => htouch) fun _ => rfl

/-! ## Sound stages -/

namespace UseCase

/-- What a stage of a use case says of refunds: a payment was loaded without events, it is the one
that the call is about, and its stored refund is the one that was planned. -/
def Stage.Sound (target : Option PaymentId) : Stage → Prop
  | .idle t => t = target
  | .named _ => True
  | .held p => p.events = [] ∧ target = some p.id
  | .approved p _ => p.events = [] ∧ target = some p.id
  | .stored q none => q.paidBack = []
  | .stored q (some plan) =>
    q.paidBack = [plan.amount] ∧ target = some q.id ∧
      q.status = if plan.isPartial then .partiallyRefunded else .refunded
  | .refused _ _ => True
  | .missed => True

theorem Step.sound {s t : Stage} {a : Act γ π} {target : Option PaymentId} (h : Step s a t)
    (hs : s.Sound target) : t.Sound target := by
  cases h with
  | clock => exact hs
  | warn => exact hs
  | draw => trivial
  | miss => trivial
  | load hquiet => exact ⟨hquiet, hs.symm⟩
  | @create id now draft version =>
    cases version with
    | ok version => exact (rfl : (Payment.create id now draft).paidBack = [])
    | error why => trivial
  | @change p q c version hgives =>
    cases version with
    | ok version => exact hgives.paidBack_of_none hs.1
    | error why => trivial
  | decline _ => exact hs
  | approve _ _ _ _ => exact hs
  | @refund p q plan now reason version hgives =>
    cases version with
    | ok version =>
      refine ⟨hgives.paidBack_of_some hs.1, ?_, hgives.status_of_some⟩
      rw [hs.2]
      exact congrArg some hgives.sameIdentity.id.symm
    | error why => trivial
  | offer => exact hs

theorem Step.eq_stored {s t : Stage} {q : Payment} {version : Nat}
    (h : Step (γ := γ) (π := π) s (.save q (.ok version)) t) :
    ∃ plan, t = .stored (q.withVersion version) plan := by
  cases h <;> exact ⟨_, rfl⟩

theorem Step.ends {s t : Stage} {a : Act γ π} (h : Step s a t) :
    t = s ∨ (∃ q plan version, a = .save q version ∧ t = .saved q plan version) ∨
      ((∀ q plan, t ≠ .stored q plan) ∧ ∀ q why, t ≠ .refused q why) := by
  cases h with
  | clock => exact .inl rfl
  | warn => exact .inl rfl
  | decline _ => exact .inl rfl
  | offer => exact .inl rfl
  | create => exact .inr (.inl ⟨_, _, _, rfl, rfl⟩)
  | change _ => exact .inr (.inl ⟨_, _, _, rfl, rfl⟩)
  | refund _ => exact .inr (.inl ⟨_, _, _, rfl, rfl⟩)
  | draw => exact .inr (.inr ⟨by simp, by simp⟩)
  | miss => exact .inr (.inr ⟨by simp, by simp⟩)
  | load _ => exact .inr (.inr ⟨by simp, by simp⟩)
  | approve _ _ _ _ => exact .inr (.inr ⟨by simp, by simp⟩)

/-- Whoever saves pays back once at most. -/
theorem Step.paidBack_eq {s t : Stage} {q : Payment} {version : Nat} {target : Option PaymentId}
    (h : Step (γ := γ) (π := π) s (.save q (.ok version)) t) (hs : s.Sound target) :
    q.paidBack = [] ∨ ∃ a, q.paidBack = [a] := by
  obtain ⟨plan, rfl⟩ := h.eq_stored
  have hsound := h.sound hs
  cases plan with
  | none => exact .inl hsound
  | some plan => exact .inr ⟨plan.amount, hsound.1⟩

end UseCase

/-! ## Runs of use cases -/

section Runs

variable [DecidableEq ι] {useCases : ι → UseCase} {log : List (Entry ι γ π)}
  {stage : ι → UseCase.Stage} (h : Run UseCase.Step (fun i => .idle (useCases i).target) log stage)

include h

theorem sound_run (i : ι) : (stage i).Sound (useCases i).target :=
  h.always (P := fun i s => s.Sound (useCases i).target) (fun _ => rfl)
    (fun _ _ _ _ hs hstep => hstep.sound hs) i

theorem holds_run : Run Hold.Step (fun _ => .nothing) log (fun i => (stage i).hold) :=
  h.map fun _ _ _ hstep => hstep.hold

/-- A save that was accepted is the last that its use case has done to the store. -/
theorem stored_of_mem_save {i : ι} {q : Payment} {version : Nat}
    (hmem : Entry.act i (.save q (.ok version)) ∈ log) :
    ∃ plan, stage i = .stored (q.withVersion version) plan := by
  refine h.of_mem (P := fun s => ∃ plan, s = .stored (q.withVersion version) plan)
    (fun s t hstep => ?_) (fun s b t hs hstep => ?_) hmem
  · exact hstep.eq_stored
  · obtain ⟨plan, rfl⟩ := hs
    cases hstep <;> exact ⟨_, rfl⟩

theorem mem_save_of_stored {i : ι} {q : Payment} {plan : Option Payment.RefundPlan}
    (hi : stage i = .stored q plan) :
    ∃ p version, Entry.act i (.save p (.ok version)) ∈ log ∧ q = p.withVersion version := by
  have hback : ∀ (s : UseCase.Stage) (a : Act γ π) (t : UseCase.Stage), UseCase.Step s a t →
      t = .stored q plan →
      s = .stored q plan ∨ ∃ p version, a = .save p (.ok version) ∧ q = p.withVersion version := by
    intro s a t hstep ht
    subst ht
    rcases hstep.ends with hsame | ⟨p, plan', version, rfl, hsaved⟩ | ⟨hother, -⟩
    · exact .inl hsame.symm
    · obtain ⟨v, rfl, hq⟩ := UseCase.Stage.eq_stored_of_saved hsaved.symm
      exact .inr ⟨p, v, rfl, hq⟩
    · exact absurd rfl (hother q plan)
  obtain ⟨a, hmem, p, version, rfl, hq⟩ := h.exists_mem (fun _ => by simp) hback hi
  exact ⟨p, version, hmem, hq⟩

theorem mem_refundsOf_iff {id : PaymentId} {i : ι} {a : Amount} :
    (i, a) ∈ refundsOf id log ↔
      ∃ q plan, stage i = .stored q (some plan) ∧ q.id = id ∧ plan.amount = a := by
  have hsound := sound_run h i
  rw [mem_refundsOf]
  constructor
  · rintro ⟨q, version, hmem, hid, ha⟩
    obtain ⟨plan, hi⟩ := stored_of_mem_save h hmem
    rw [hi] at hsound
    cases plan with
    | none =>
      have hnone : q.paidBack = [] := hsound
      simp [hnone] at ha
    | some plan =>
      have hone : q.paidBack = [plan.amount] := hsound.1
      rw [hone, List.mem_singleton] at ha
      exact ⟨_, plan, hi, hid, ha.symm⟩
  · rintro ⟨q, plan, hi, hid, ha⟩
    obtain ⟨p, version, hmem, rfl⟩ := mem_save_of_stored h hi
    rw [hi] at hsound
    have hone : p.paidBack = [plan.amount] := hsound.1
    exact ⟨p, version, hmem, hid, by simp [hone, ha]⟩

theorem nodup_refundsOf (id : PaymentId) : ((refundsOf id log).map Prod.fst).Nodup := by
  induction h with
  | nil => exact List.nodup_nil
  | delete _ ih => exact ih
  | @act log stage i a t hrun _ hpermitted ih =>
    rw [refundsOf_cons]
    unfold Entry.refunds
    split
    · rename_i j q version heq
      cases heq
      split
      · -- who saves has not stored a refund before, and stores one at most
        have hnew : i ∉ (refundsOf id log).map Prod.fst := by
          intro hmem
          obtain ⟨⟨j, b⟩, hb, rfl⟩ := List.mem_map.1 hmem
          obtain ⟨q, plan, hi, -⟩ := (mem_refundsOf_iff hrun).1 hb
          rw [hi] at hpermitted
          cases hpermitted
        rcases hpermitted.paidBack_eq (sound_run hrun i) with hnone | ⟨a, hone⟩
        · rw [hnone]
          exact ih
        · rw [hone]
          exact List.nodup_cons.2 ⟨hnew, ih⟩
      · exact ih
    · exact ih

/-- In a run without deletions every stored payment accounts for its refunds. -/
theorem settled_of_run (hkept : ∀ id, Entry.delete id ∉ log) : Settled log := by
  induction h with
  | nil => exact .nil
  | delete _ _ => exact absurd List.mem_cons_self (hkept _)
  | act hrun hfits hpermitted ih =>
    have hbefore : ∀ id, Entry.delete id ∉ _ := fun id hmem =>
      hkept id (List.mem_cons_of_mem _ hmem)
    have horderly := orderly_of_run (holds_run hrun) (.inr hbefore)
    exact (ih hbefore).act horderly (.inr hbefore) hfits hpermitted

/-- Only who has stored something offers events. -/
theorem stored_of_mem_offer {i : ι} {listener : π} {event : Event} {delivery : Delivery}
    (hmem : Entry.act i (.offer listener event delivery) ∈ log) :
    ∃ q plan, stage i = .stored q plan := by
  refine h.of_mem (P := fun s => ∃ q plan, s = .stored q plan) (fun s t hstep => ?_)
    (fun s b t hs hstep => ?_) hmem
  · cases hstep
    exact ⟨_, _, rfl⟩
  · obtain ⟨q, plan, rfl⟩ := hs
    cases hstep <;> exact ⟨_, _, rfl⟩

end Runs

/-- **Concurrent refunds settle consistently.** Any number of refunds and other commands on any
payments, in any order of their steps and with any answers of providers, until all are done. The
refunds of a payment that were stored are those of the calls on it that answered with a success, one
for each; their sum is what the payment says was paid back, and not more than its amount. A success
tells a state in which the payment was stored, and who answers with a failure has stored nothing and
offered no event. -/
theorem refunds_settle [DecidableEq ι] (desk : Desk γ π) (useCases : ι → UseCase)
    (steps : List (ι × Outside)) :
    let floor := Floor.play (fun i => (useCases i).workflow desk)
      (steps.map fun step => .step step.1 step.2)
    (∀ i, (floor.running i).isDone = true) →
    (∀ id,
      ((refundsOf id floor.log).map Prod.fst).Nodup ∧
      (∀ i, (∃ a, (i, a) ∈ refundsOf id floor.log) ↔ (useCases i).target = some id ∧
        ∃ outcome, floor.running i = .done (.refund outcome) ∧ outcome.isSuccess = true) ∧
      (∀ i a, (i, a) ∈ refundsOf id floor.log → ∃ state ∈ writesOf id floor.log, ∃ raw,
        floor.running i = .done (.refund
          (.success id state.status a (decide (state.status = .partiallyRefunded)) raw))) ∧
      ∀ p, floor.store.find? id = some p →
        p.refundedCents = sumCents (refundsOf id floor.log) ∧
        (p.refunded = none ↔ refundsOf id floor.log = []) ∧
        p.refundedCents ≤ p.amount.cents) ∧
    (∀ i outcome, floor.running i = .done (.refund outcome) → outcome.isSuccess = false →
      outcome.status = .failed ∧
      (∀ q version, Entry.act i (.save q (.ok version)) ∉ floor.log) ∧
      ∀ listener event delivery, Entry.act i (.offer listener event delivery) ∉ floor.log) := by
  intro floor hdone
  obtain ⟨stage, hrun, hkeeps⟩ := exists_run_play (fun i => (useCases i).keeps desk)
    (steps.map fun step => .step step.1 step.2)
  change Run _ _ floor.log stage at hrun
  have hfits : ∀ i answer, floor.running i = .done answer → (stage i).Fits answer :=
    fun i _ hi => UseCase.fits_of_done (hkeeps i) hi
  have hanswers : ∀ i, ∃ answer, floor.running i = .done answer :=
    fun i => Workflow.eq_done_of_isDone (hdone i)
  have hsettled := settled_of_run hrun (delete_not_mem_play _ steps)
  have hsound := sound_run hrun
  refine ⟨fun id => ⟨nodup_refundsOf hrun id, fun i => ⟨?_, ?_⟩, ?_, ?_⟩, ?_⟩
  · rintro ⟨a, ha⟩
    obtain ⟨q, plan, hi, rfl, -⟩ := (mem_refundsOf_iff hrun).1 ha
    obtain ⟨answer, hanswer⟩ := hanswers i
    obtain ⟨raw, rfl⟩ := (hfits i answer hanswer).of_refunded hi
    have hs := hsound i
    rw [hi] at hs
    exact ⟨hs.2.1, _, hanswer, rfl⟩
  · rintro ⟨htarget, outcome, hanswer, hsuccess⟩
    rcases (hfits i _ hanswer).refund_cases rfl with ⟨q, plan, raw, hi, -⟩ | ⟨-, _, _, rfl⟩
    · have hs := hsound i
      rw [hi] at hs
      have hid : q.id = id := Option.some.inj (hs.2.1.symm.trans htarget)
      exact ⟨plan.amount, (mem_refundsOf_iff hrun).2 ⟨q, plan, hi, hid, rfl⟩⟩
    · cases hsuccess
  · intro i a ha
    obtain ⟨q, plan, hi, rfl, rfl⟩ := (mem_refundsOf_iff hrun).1 ha
    obtain ⟨answer, hanswer⟩ := hanswers i
    obtain ⟨raw, rfl⟩ := (hfits i answer hanswer).of_refunded hi
    obtain ⟨p, version, hmem, rfl⟩ := mem_save_of_stored hrun hi
    have hs := hsound i
    rw [hi] at hs
    have hpartial : plan.isPartial =
        decide ((p.withVersion version).status = .partiallyRefunded) := by
      rw [hs.2.2]
      cases plan.isPartial <;> rfl
    rw [hpartial] at hanswer
    have hwritten := mem_writesOf_of_mem_save hmem
    exact ⟨_, hwritten, raw, hanswer⟩
  · intro p hp
    rw [store_play] at hp
    exact ⟨hsettled.sum id p hp, hsettled.refunded_eq_none_iff hp, hsettled.within id p hp⟩
  · intro i outcome hanswer hfailure
    rcases (hfits i _ hanswer).refund_cases rfl with ⟨_, _, _, _, rfl⟩ | ⟨hfree, _, _, rfl⟩
    · cases hfailure
    · refine ⟨rfl, fun q version hmem => ?_, fun listener event delivery hmem => ?_⟩
      · obtain ⟨plan, hi⟩ := stored_of_mem_save hrun hmem
        rw [hi] at hfree
        exact hfree
      · obtain ⟨q, plan, hi⟩ := stored_of_mem_offer hrun hmem
        rw [hi] at hfree
        exact hfree

/-! ### A race of two refunds -/

/-- A desk with one provider and no listeners. -/
def Desk.plain : Desk Unit Empty where
  registry := Registry.empty.register ⟨.paypal, some ()⟩
  listeners := []
  publishTimeoutMillis := 0

open scoped Trial

/-- A payment of one hundred dollars is made, started and completed, and two refund all of it. -/
def UseCase.racing : Fin 5 → UseCase
  | 0 => .create "shop" ⟨"paypal", .ofNat 100, "usd", "first", none, none⟩
  | 1 => .startProcessing "shop" .first
  | 2 => .complete "shop" .first ⟨"paid", none⟩
  | 3 => .refund ⟨PaymentId.first.toText, "shop", none, none⟩
  | 4 => .refund ⟨PaymentId.first.toText, "shop", none, none⟩

/-- Both refunds are approved before one of them is saved. -/
def UseCase.race : List (Fin 5 × Outside) :=
  [0, 0, 0, 1, 1, 1, 2, 2, 2, 3, 4, 3, 4, 3, 4, 3, 4, 4].map fun i =>
    (i, ⟨default, .first, .ok (.approved none), .accepted⟩)

/-- In the race one hundred dollars are paid back by the books. -/
theorem refunds_settle_race :
    let floor := Floor.play (fun i => (UseCase.racing i).workflow Desk.plain)
      (UseCase.race.map fun step => .step step.1 step.2)
    (∀ i, (floor.running i).isDone = true) ∧
    sumCents (refundsOf .first floor.log) = 10000 ∧
    ∃ p, floor.store.find? .first = some p ∧ p.refundedCents = 10000 := by
  intro floor
  have hsum : sumCents (refundsOf .first floor.log) = 10000 := by decide +kernel
  have hstored : (floor.store.find? .first).isSome = true := by decide +kernel
  obtain ⟨p, hp⟩ := Option.isSome_iff_exists.1 hstored
  obtain ⟨hsettled, -⟩ := refunds_settle Desk.plain UseCase.racing UseCase.race (by decide +kernel)
  obtain ⟨-, -, -, hrefunded⟩ := hsettled .first
  refine ⟨by decide +kernel, hsum, p, hp, ?_⟩
  rw [(hrefunded p hp).1]
  exact hsum

end Paydesk
