import Paydesk.Proofs.Payment.Notes
import Paydesk.Proofs.Service.Story

/-!
# Metadata of stored payments

Whatever data callers supply, under whatever names, the metadata of a stored payment say what the
commands have noted, and under all other names what was supplied last: `notes_kept`. Nothing keeps
callers from supplying data under the names of notes, and as long as there is nothing to note the
metadata say there what was supplied last as well, and nothing else: `reserved_supplied`.

1. What an accepted save stores is a new payment with the data of its caller, or what the command of
   its caller has made of the state that was stored last (`Course.Continues`,
   `Course.continues_of_run`).
2. So what the metadata say goes on from one stored state to the next (`noted_of_run`).
-/

namespace Paydesk

variable {ι γ π : Type}

/-! ## What callers supply -/

/-- The data that come with a call of the service. -/
def UseCase.data : UseCase → Metadata
  | .create _ r => r.metadata.getD .empty
  | .complete _ _ r => r.metadata.getD .empty
  | .fail _ _ r => r.metadata.getD .empty
  | _ => .empty

/-- The reason that is given for a refund. -/
def UseCase.refundReason : UseCase → Option String
  | .refund r => r.reason
  | _ => none

/-- What an event tells that was paid back. -/
def Event.paidBack (e : Event) : Option Amount :=
  match e.change with
  | .refunded amount _ _ => some amount
  | _ => none

/-- What was paid back last, as events tell it, the last one last. -/
def lastPaidBack (events : List Event) : Option Amount :=
  events.reverse.findSome? Event.paidBack

theorem lastPaidBack_append (events more : List Event) :
    lastPaidBack (events ++ more) = (lastPaidBack more).or (lastPaidBack events) := by
  unfold lastPaidBack
  rw [List.reverse_append, List.findSome?_append]

theorem Payment.Call.Gives.lastPaidBack_events {p q : Payment} {c : Call} {plan : Option RefundPlan}
    (h : Gives p c q plan) (hcommand : c.IsCommand) (hquiet : p.events = []) :
    lastPaidBack q.events = plan.map RefundPlan.amount := by
  have hrecord : ∀ (r : Payment) (now : Instant) (change : Change), r.events = [] →
      lastPaidBack (r.record now change).events = (r.eventOf now change).paidBack := by
    intro r now change hr
    show lastPaidBack (r.events ++ [_]) = _
    rw [hr]
    exact List.findSome?_singleton
  cases h with
  | startProcessing _ => exact congrArg lastPaidBack hquiet
  | complete _ _ => exact hrecord _ _ _ hquiet
  | fail _ => exact hrecord _ _ _ hquiet
  | cancel _ => exact congrArg lastPaidBack hquiet
  | refund _ _ => exact hrecord _ _ _ hquiet
  | updateMetadata => exact hcommand.elim
  | commitEvents => exact hcommand.elim
  | reload => exact hcommand.elim

theorem UseCase.call_of_command {u : UseCase} {now : Instant} {c : Payment.Call}
    (h : u.command now = some c) : c.data = u.data ∧ c.refundReason = u.refundReason := by
  cases u <;> cases h <;> exact ⟨rfl, rfl⟩

/-! ## What a save continues -/

namespace Course

/-- What an accepted save of a call stores, after what was stored before. -/
inductive Continues (log : List (Entry ι γ π)) (u : UseCase) : Payment → Prop
  | create {tenant : String} {r : CreateRequest} {draft : Payment.Draft} {now : Instant}
      {id : PaymentId} (call : u = .create tenant r) (supplied : draft.metadata = r.metadata)
      (unwritten : writesOf id log = []) : Continues log u (Payment.create id now draft)
  | change {p q : Payment} {c : Payment.Call} {plan : Option Payment.RefundPlan}
      {older : List Payment} (command : c.IsCommand) (data : c.data = u.data)
      (reason : c.refundReason = u.refundReason) (gives : c.Gives p q plan)
      (newest : writesOf p.id log = p :: older) : Continues log u q

theorem metadata_of_draft {tenant : String} {r : CreateRequest} {draft : Payment.Draft}
    (h : Desk.draft tenant r = .ok draft) : draft.metadata = r.metadata := by
  simp only [Desk.draft, bind, Except.bind] at h
  repeat' split at h
  all_goals cases h
  rfl

variable [DecidableEq ι] {desk : Desk γ π} {useCases : ι → UseCase} {log : List (Entry ι γ π)}
  {stage : ι → Stage π}

theorem continues_of_run (h : Run (Step desk) (fun i => .idle (useCases i)) log stage)
    (hkept : ∀ id, Entry.delete id ∉ log) {i : ι} {q : Payment} {version : Nat} {t : Stage π}
    (hnext : (replay log).nextVersion q = .ok version)
    (hpermitted : Step desk (stage i) (.save q (.ok version)) t) :
    Continues log (useCases i) q := by
  have hwrote := wrote_of_run h hkept hnext hpermitted
  have hbacked := backed_of_trail (h.trail i)
  generalize stage i = s at hpermitted hwrote hbacked
  cases hpermitted with
  | create =>
    obtain ⟨⟨tenant, r, hcall, hvalid⟩, -⟩ := hbacked
    cases hwrote with
    | create hunwritten => exact .create hcall (metadata_of_draft hvalid) hunwritten
    | change hdated => cases hdated
  | change hcommand hgives =>
    obtain ⟨rfl, -⟩ := hbacked
    cases hwrote with
    | change hdated _ _ _ hnewest =>
      cases hdated
      obtain ⟨hdata, hreason⟩ := UseCase.call_of_command hcommand
      exact .change (command_spec hcommand).1 hdata hreason hgives hnewest
  | refund hgives =>
    obtain ⟨hcall, -⟩ := hbacked
    cases hwrote with
    | change hdated _ _ _ hnewest =>
      cases hdated
      rw [hcall]
      refine .change ?_ ?_ ?_ hgives hnewest
      · trivial
      · rfl
      · rfl

end Course

/-! ## What the metadata of stored payments say -/

section Runs

variable [DecidableEq ι] {desk : Desk γ π} {useCases : ι → UseCase} {log : List (Entry ι γ π)}
  {stage : ι → Course.Stage π}

/-- What the metadata of a stored payment say, of all calls that have stored it. -/
def Payment.NotedBy (useCases : ι → UseCase) (id : PaymentId) (log : List (Entry ι γ π))
    (p : Payment) : Prop :=
  p.Noted ((saversOf id log).map fun i => (useCases i).data) (lastPaidBack (storyOf id log))
    ((saversOf id log).findSome? fun i => (useCases i).refundReason)

omit [DecidableEq ι] in
/-- A save goes on with what the metadata of its payment say. -/
theorem Course.Continues.noted {q : Payment} {i : ι} (h : Course.Continues log (useCases i) q)
    (hconsistent : ∀ p ∈ writes log, p.IsConsistent)
    (hevents : ∀ e ∈ q.events, e.payment = q.id)
    (hold : ∀ p ∈ (writesOf q.id log).head?, p.NotedBy useCases q.id log)
    (hnew : writesOf q.id log = [] → storyOf q.id log = []) (version : Nat) :
    (q.withVersion version).commitEvents.NotedBy useCases q.id
      (.act i (.save q (.ok version)) :: log) := by
  unfold Payment.NotedBy
  rw [saversOf_save, if_pos rfl, storyOf_save hevents, if_pos rfl, lastPaidBack_append]
  refine Payment.Noted.saved ?_ version
  generalize hu : useCases i = u at h
  cases h with
  | @create tenant r draft now id hcall hsupplied hunwritten =>
    have hnobody : saversOf id log = [] := by
      rw [← List.length_eq_zero_iff, length_saversOf, hunwritten]
      rfl
    have hnothing : storyOf id log = [] := hnew hunwritten
    show (Payment.create id now draft).Noted ((i :: saversOf id log).map _)
      ((lastPaidBack (Payment.create id now draft).events).or (lastPaidBack (storyOf id log)))
      ((i :: saversOf id log).findSome? _)
    rw [hnobody, hnothing]
    simp only [List.map_cons, List.map_nil, List.findSome?_cons, List.findSome?_nil, hu, hcall]
    have hcreated := Payment.noted_create id now draft
    rw [hsupplied] at hcreated
    exact hcreated
  | @change p _ c plan older hcommand hdata hreason hgives hnewest =>
    have hid := hgives.sameIdentity.id
    have hmem : p ∈ writesOf p.id log := by
      rw [hnewest]
      exact List.mem_cons_self
    have hnoted : p.NotedBy useCases q.id log := by
      refine hold p ?_
      rw [hid, hnewest]
      rfl
    have hnext := hgives.noted hcommand (hconsistent p (List.mem_filter.1 hmem).1) hnoted
    rw [hgives.lastPaidBack_events hcommand (events_of_mem_writesOf hmem), List.map_cons,
      Payment.findSome?_cons_eq_or, hu, ← hdata, ← hreason]
    exact hnext

/-- What the metadata of stored payments say is what was noted and supplied. -/
theorem noted_of_run (h : Run (Course.Step desk) (fun i => .idle (useCases i)) log stage)
    (hkept : ∀ id, Entry.delete id ∉ log) (hconsistent : ∀ p ∈ writes log, p.IsConsistent)
    (id : PaymentId) : ∀ p ∈ (writesOf id log).head?, p.NotedBy useCases id log := by
  induction h generalizing id with
  | nil =>
    intro p hp
    have hnone : (writesOf id ([] : List (Entry ι γ π))).head? = none := rfl
    rw [hnone] at hp
    cases hp
  | delete _ _ => exact absurd List.mem_cons_self (hkept _)
  | @act log stage i a t hrun hfits hpermitted ih =>
    have hbefore : ∀ id, Entry.delete id ∉ log := fun id hmem =>
      hkept id (List.mem_cons_of_mem _ hmem)
    have hwere : ∀ p ∈ writes log, p.IsConsistent := fun p hp =>
      hconsistent p (List.filterMap_subset _ (List.subset_cons_self _ _) hp)
    have hnoted := ih hbefore hwere
    intro p hp
    rcases (Entry.act i a).written_cases with hwritten | ⟨j, q, version, heq⟩
    · rw [writesOf_cons_of_none hwritten] at hp
      unfold Payment.NotedBy
      rw [saversOf_cons_of_none hwritten, storyOf, chronicle_cons_of_none hwritten]
      exact hnoted id p hp
    · cases heq
      have hevents := payment_of_mem_save (.act hrun hfits hpermitted) List.mem_cons_self
      rw [writesOf_save] at hp
      by_cases hid : q.id = id
      · subst hid
        rw [if_pos rfl] at hp
        obtain rfl := Option.some.inj hp
        have hcontinues := Course.continues_of_run hrun hbefore hfits.symm hpermitted
        exact hcontinues.noted hwere hevents (hnoted q.id) (told_of_run hrun hbefore q.id).2
          version
      · rw [if_neg hid] at hp
        unfold Payment.NotedBy
        rw [saversOf_save, if_neg hid, storyOf_save hevents, if_neg hid]
        exact hnoted id p hp

end Runs

/-- The same of the store after any steps of any calls. -/
theorem notedBy_floor [DecidableEq ι] (desk : Desk γ π) (useCases : ι → UseCase)
    (steps : List (ι × Outside)) {id : PaymentId} {p : Payment}
    (hp : (desk.floor useCases steps).store.find? id = some p) :
    p.NotedBy useCases id (desk.floor useCases steps).log := by
  obtain ⟨stage, hrun, -, hkept⟩ := desk.exists_run_floor useCases steps
  have hconsistent : ∀ p ∈ writes (desk.floor useCases steps).log, p.IsConsistent :=
    UseCase.consistent_of_mem_writes desk useCases _
  rw [desk.find?_floor] at hp
  exact noted_of_run hrun hkept hconsistent id p hp

/-- **Callers never shadow what the commands have noted.** Any calls of the service in any order of
their steps, with any data under any names. The metadata of a stored payment have the dates of its
completion, failure and last refund, if it has them, the amount that was paid back last, the reason
that was given last for a refund and the reason of a cancellation. Under every name that is not
reserved they have the value of the last successful call that has supplied one, and none if there was
no such call. -/
theorem notes_kept [DecidableEq ι] (desk : Desk γ π) (useCases : ι → UseCase)
    (steps : List (ι × Outside)) :
    let floor := desk.floor useCases steps
    ∀ id p, floor.store.find? id = some p →
      let callers := saversOf id floor.log
      let said := fun key => p.metadata.get? key
      (∀ time, p.completedAt = some time →
        said Payment.completedAtKey = some (.string time.toOffsetText)) ∧
      (∀ time, p.failedAt = some time →
        said Payment.failedAtKey = some (.string time.toOffsetText)) ∧
      (∀ time, p.refundedAt = some time →
        said Payment.refundedAtKey = some (.string time.toOffsetText)) ∧
      (p.refunded.isSome = true → ∃ amount, lastPaidBack (storyOf id floor.log) = some amount ∧
        said Payment.refundAmountKey = some (.string amount.formatted)) ∧
      (∀ reason, (callers.findSome? fun i => (useCases i).refundReason) = some reason →
        said Payment.refundReasonKey = some (.string reason)) ∧
      (p.status = .cancelled → ∃ reason, p.reason = some reason ∧
        said Payment.cancellationReasonKey = some (.string reason)) ∧
      ∀ key ∉ Payment.reservedKeys,
        said key = callers.findSome? fun i => (useCases i).data.get? key := by
  intro floor id p hp callers said
  have hnoted : p.NotedBy useCases id floor.log := notedBy_floor desk useCases steps hp
  refine ⟨hnoted.completed, hnoted.failed, hnoted.refunded, fun hrefunded => ?_, hnoted.reason,
    hnoted.cancelled, fun key hkey => ?_⟩
  · rw [hnoted.total] at hrefunded
    obtain ⟨amount, hamount⟩ := Option.isSome_iff_exists.1 hrefunded
    exact ⟨amount, hamount, hnoted.amount amount hamount⟩
  · exact (hnoted.others key hkey).trans List.findSome?_map

/-! ### Data under reserved names -/

open scoped Trial

/-- The life of a payment with data under the names of notes. -/
def UseCase.shadowing : Fin 5 → UseCase
  | 0 => .create "shop" ⟨"paypal", .ofNat 100, "usd", "first", none,
      some ⟨[("colour", .string "red"), ("refundReason", .string "mine"), ("size", .string "small")],
        by decide, trivial, trivial, trivial, trivial⟩⟩
  | 1 => .startProcessing "shop" .first
  | 2 => .complete "shop" .first ⟨"paid",
      some ⟨[("completedAt", .string "never"), ("refundAmount", .string "0"),
        ("size", .string "large")], by decide, trivial, trivial, trivial, trivial⟩⟩
  | 3 => .refund ⟨PaymentId.first.toText, "shop", some (.ofNat 40), some "damaged"⟩
  | 4 => .refund ⟨PaymentId.first.toText, "shop", none, none⟩

/-- The data of callers are kept, but not where commands have noted something. -/
theorem notes_kept_shadowing :
    let floor := Desk.heard.floor UseCase.shadowing UseCase.turns
    ∃ p, floor.store.find? .first = some p ∧
      p.metadata.get? "completedAt" = some (.string "1970-01-01T00:00:01.000000002+00:00") ∧
      p.metadata.get? "refundReason" = some (.string "damaged") ∧
      (∃ amount : Amount, amount.cents = 6000 ∧
        p.metadata.get? "refundAmount" = some (.string amount.formatted)) ∧
      p.metadata.get? "colour" = some (.string "red") ∧
      p.metadata.get? "size" = some (.string "large") := by
  have hkept := notes_kept Desk.heard UseCase.shadowing UseCase.turns .first
  have hcallers : saversOf .first (Desk.heard.floor UseCase.shadowing UseCase.turns).log =
      [4, 3, 2, 1, 0] := by decide +kernel
  have hcompleted : ((Desk.heard.floor UseCase.shadowing UseCase.turns).store.find? .first).bind
      (fun p => p.completedAt) = some ⟨1, 2⟩ := by decide +kernel
  have hrefunded : ((Desk.heard.floor UseCase.shadowing UseCase.turns).store.find? .first).all
      (fun p => p.refunded.isSome) = true := by decide +kernel
  have hpaid : (lastPaidBack (storyOf .first
      (Desk.heard.floor UseCase.shadowing UseCase.turns).log)).map Amount.cents = some 6000 := by
    decide +kernel
  generalize Desk.heard.floor UseCase.shadowing UseCase.turns = floor
    at hkept hcallers hcompleted hrefunded hpaid ⊢
  obtain ⟨p, hp, htime⟩ := Option.bind_eq_some_iff.1 hcompleted
  rw [hp] at hrefunded
  obtain ⟨hcompletedAt, -, -, hamount, hreason, -, hothers⟩ := hkept p hp
  rw [hcallers] at hreason hothers
  obtain ⟨amount, hlast, hsaid⟩ := hamount hrefunded
  rw [hlast] at hpaid
  refine ⟨p, hp, ?_, hreason "damaged" rfl, ⟨amount, Option.some.inj hpaid, hsaid⟩,
    hothers "colour" (by decide), hothers "size" (by decide)⟩
  exact hcompletedAt ⟨1, 2⟩ htime

/-- **What stands under a reserved name was noted or supplied.** Any calls of the service in any
order of their steps, with any data under any names. A stored payment that has no date of its
completion has under the name of that date the value of the last successful call that has supplied
one, and none if there was no such call. It is the same with the date of a failure, with all that
refunds note as long as nothing was paid back, and with the reason of a cancellation. -/
theorem reserved_supplied [DecidableEq ι] (desk : Desk γ π) (useCases : ι → UseCase)
    (steps : List (ι × Outside)) :
    let floor := desk.floor useCases steps
    ∀ id p, floor.store.find? id = some p →
      let said := fun key => p.metadata.get? key
      let supplied := fun key =>
        (saversOf id floor.log).findSome? fun i => (useCases i).data.get? key
      (p.completedAt = none → said Payment.completedAtKey = supplied Payment.completedAtKey) ∧
      (p.failedAt = none → said Payment.failedAtKey = supplied Payment.failedAtKey) ∧
      (p.refunded = none → said Payment.refundedAtKey = supplied Payment.refundedAtKey ∧
        said Payment.refundAmountKey = supplied Payment.refundAmountKey ∧
        said Payment.refundReasonKey = supplied Payment.refundReasonKey) ∧
      (p.status ≠ .cancelled →
        said Payment.cancellationReasonKey = supplied Payment.cancellationReasonKey) := by
  intro floor id p hp said supplied
  have hnoted : p.NotedBy useCases id floor.log := notedBy_floor desk useCases steps hp
  have hsupplied : ∀ key, ¬ p.HasNoted key → said key = supplied key := fun key hkey =>
    (hnoted.unnoted key hkey).trans List.findSome?_map
  refine ⟨fun hnone => hsupplied _ fun h => ?_, fun hnone => hsupplied _ fun h => ?_,
    fun hnone => ?_, fun hstatus => hsupplied _ fun h => hstatus (h.fact.2.2.2 rfl)⟩
  · exact Option.isSome_iff_ne_none.1 (h.fact.1 rfl) hnone
  · exact Option.isSome_iff_ne_none.1 (h.fact.2.1 rfl) hnone
  · have hunpaid : ∀ key, key = Payment.refundedAtKey ∨ key = Payment.refundAmountKey ∨
        key = Payment.refundReasonKey → ¬ p.HasNoted key := fun key hkey h =>
      Option.isSome_iff_ne_none.1 (h.fact.2.2.1 hkey) hnone
    exact ⟨hsupplied _ (hunpaid _ (.inl rfl)), hsupplied _ (hunpaid _ (.inr (.inl rfl))),
      hsupplied _ (hunpaid _ (.inr (.inr rfl)))⟩

/-- The calls of a payment's life until the money is taken. -/
def UseCase.captured : List (Fin 5 × Outside) :=
  turn 0 .accepted ++ turn 1 .accepted ++ turn 2 .accepted

/-- A payment that was taken has no failure and no cancellation to note, and what its callers have
supplied under the names of refunds stands there. -/
theorem reserved_supplied_shadowing :
    let floor := Desk.heard.floor UseCase.shadowing UseCase.captured
    ∃ p, floor.store.find? .first = some p ∧ p.failedAt = none ∧ p.refunded = none ∧
      p.metadata.get? "failedAt" = none ∧
      p.metadata.get? "refundedAt" = none ∧
      p.metadata.get? "refundAmount" = some (.string "0") ∧
      p.metadata.get? "refundReason" = some (.string "mine") := by
  have hkept := reserved_supplied Desk.heard UseCase.shadowing UseCase.captured .first
  have hcallers : saversOf .first (Desk.heard.floor UseCase.shadowing UseCase.captured).log =
      [2, 1, 0] := by decide +kernel
  have hstored : ((Desk.heard.floor UseCase.shadowing UseCase.captured).store.find? .first).map
      (fun p => (p.failedAt, p.refunded)) = some (none, none) := by decide +kernel
  generalize Desk.heard.floor UseCase.shadowing UseCase.captured = floor
    at hkept hcallers hstored ⊢
  obtain ⟨p, hp, hfacts⟩ := Option.map_eq_some_iff.1 hstored
  obtain ⟨hfailed, hrefunded⟩ := Prod.mk.inj hfacts
  obtain ⟨-, hfailure, hrefund, -⟩ := hkept p hp
  obtain ⟨hdate, hamount, hreason⟩ := hrefund hrefunded
  rw [hcallers] at hfailure hdate hamount hreason
  exact ⟨p, hp, hfailed, hrefunded, hfailure hfailed, hdate, hamount, hreason⟩

/-- A new payment with data under all names of notes. -/
def UseCase.forging : Fin 1 → UseCase
  | 0 => .create "shop" ⟨"paypal", .ofNat 100, "usd", "first", none,
      some (Payment.reservedKeys.foldl (fun data key => data.write key "forged") .empty)⟩

/-- Nothing was done with a new payment, and all that commands could note stands in its metadata. -/
theorem reserved_forged :
    ∃ p, (Desk.heard.floor UseCase.forging UseCase.announced).store.find? .first = some p ∧
      p.completedAt = none ∧ p.failedAt = none ∧ p.refunded = none ∧ p.status ≠ .cancelled ∧
      ∀ key ∈ Payment.reservedKeys, (p.metadata.get? key).isSome = true := by
  have hstored : ((Desk.heard.floor UseCase.forging UseCase.announced).store.find? .first).map
      (fun p => ((p.completedAt, p.failedAt, p.refunded, p.status),
        Payment.reservedKeys.all fun key => (p.metadata.get? key).isSome)) =
      some ((none, none, none, .pending), true) := by decide +kernel
  obtain ⟨p, hp, hfacts⟩ := Option.map_eq_some_iff.1 hstored
  obtain ⟨hempty, hforged⟩ := Prod.mk.inj hfacts
  obtain ⟨hcompleted, hfailed, hrefunded, hstatus⟩ : p.completedAt = none ∧ p.failedAt = none ∧
      p.refunded = none ∧ p.status = .pending := by simpa using hempty
  exact ⟨p, hp, hcompleted, hfailed, hrefunded, hstatus ▸ nofun, List.all_eq_true.1 hforged⟩

end Paydesk
