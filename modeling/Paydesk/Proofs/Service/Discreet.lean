import Paydesk.Proofs.Service.Alike
import Paydesk.Proofs.Service.Errand

/-!
# Use cases that see one tenant only

A use case is discreet for a tenant if what it does and gives back depends on no payment of another
tenant (`Workflow.Discreet`): a foreign payment that it loads is the same to it as none, and the
queries that it makes mean no foreign payment. It tells listeners and operators last of all, so that
whatever they do comes too late to matter. Every errand is discreet for the tenant that it is done
for (`Errand.discreet`).
-/

namespace Paydesk

variable {γ π α β : Type} {tenant : String}

open Workflow (Alike)

namespace Workflow

/-- What the use case does and gives back depends on no payment of another tenant. Once it has begun
to tell listeners or operators, its result is settled; `now` is demanded of a result that comes
without that, and `later` of one that comes with it. -/
def Discreet (tenant : String) (now later : α → Prop) : Workflow γ π α → Prop
  | .done a => now a
  | .clock next => ∀ time, Discreet tenant now later (next time)
  | .freshId next => ∀ id, Discreet tenant now later (next id)
  | .find _ next => (∀ p, p.tenant ≠ tenant → next (.ok (some p)) = next (.ok none)) ∧
      ∀ found, Discreet tenant now later (next found)
  | .list query next => (∀ p, query.matches p = true → p.tenant = tenant) ∧
      ∀ found, Discreet tenant now later (next found)
  | .save _ next => ∀ saved, Discreet tenant now later (next saved)
  | .pay _ _ next => ∀ reply, Discreet tenant now later (next reply)
  | .offer listener event next => ∃ a, later a ∧ Alike (.offer listener event next) (.done a)
  | .warn notice next => ∃ a, later a ∧ Alike (.warn notice next) (.done a)

variable {now later : α → Prop} {w : Workflow γ π α}

/-- What has nothing left to do but to tell of a result is discreet. -/
theorem Alike.discreet {a : α} (h : Alike w (.done a)) (hnow : now a) (hlater : later a) :
    w.Discreet tenant now later := by
  cases w with
  | done b =>
    obtain rfl := h.eq_of_done
    exact hnow
  | offer listener event next => exact ⟨a, hlater, h⟩
  | warn notice next => exact ⟨a, hlater, h⟩
  | _ => cases h

theorem Discreet.mono {now' later' : α → Prop} (h : w.Discreet tenant now later)
    (hnow : ∀ a, now a → now' a) (hlater : ∀ a, later a → later' a) :
    w.Discreet tenant now' later' := by
  induction w with
  | done a => exact hnow a h
  | clock next ih => exact fun time => ih time (h time)
  | freshId next ih => exact fun id => ih id (h id)
  | find id next ih => exact ⟨h.1, fun found => ih found (h.2 found)⟩
  | list query next ih => exact ⟨h.1, fun found => ih found (h.2 found)⟩
  | save p next ih => exact fun saved => ih saved (h saved)
  | pay gateway order next ih => exact fun reply => ih reply (h reply)
  | offer listener event next ih =>
    obtain ⟨a, ha, halike⟩ := h
    exact ⟨a, hlater a ha, halike⟩
  | warn notice next ih =>
    obtain ⟨a, ha, halike⟩ := h
    exact ⟨a, hlater a ha, halike⟩

/-- A payment that is found and not the tenant's own could as well not be found. -/
theorem Discreet.next_eq {id : PaymentId}
    {next : Except StoreError (Option Payment) → Workflow γ π α}
    (h : (Workflow.find id next).Discreet tenant now later) (found : Option Payment) :
    next (.ok found) = next (.ok (found.filter fun p => p.tenant == tenant)) := by
  cases found with
  | none => rfl
  | some p =>
    by_cases hp : p.tenant = tenant
    · simp [Option.filter, hp]
    · simpa [Option.filter, hp] using h.1 p hp

theorem Alike.bind_of_done {a : α} {b : β} {f : α → Workflow γ π β} (h : Alike w (.done a))
    (hrest : Alike (f a) (.done b)) : Alike (w.bind f) (.done b) := by
  generalize hend : Workflow.done a = e at h
  induction h with
  | done c =>
    cases hend
    exact hrest
  | offerLeft _ ih => exact .offerLeft fun delivery => ih delivery hend
  | warnLeft _ ih => exact .warnLeft (ih hend)
  | _ => cases hend

/-- A discreet use case goes on to be discreet, if nothing is left to do after it has told of its
result. -/
theorem Discreet.bind {f : α → Workflow γ π β} {now later : β → Prop}
    (h : w.Discreet tenant (fun a => (f a).Discreet tenant now later)
      fun a => ∃ b, later b ∧ Alike (f a) (.done b)) :
    (w.bind f).Discreet tenant now later := by
  induction w with
  | done a => exact h
  | clock next ih => exact fun time => ih time (h time)
  | freshId next ih => exact fun id => ih id (h id)
  | find id next ih =>
    refine ⟨fun p hp => ?_, fun found => ih found (h.2 found)⟩
    show (next (.ok (some p))).bind f = (next (.ok none)).bind f
    rw [h.1 p hp]
  | list query next ih => exact ⟨h.1, fun found => ih found (h.2 found)⟩
  | save p next ih => exact fun saved => ih saved (h saved)
  | pay gateway order next ih => exact fun reply => ih reply (h reply)
  | offer listener event next ih =>
    obtain ⟨a, ⟨b, hb, hrest⟩, halike⟩ := h
    exact ⟨b, hb, halike.bind_of_done hrest⟩
  | warn notice next ih =>
    obtain ⟨a, ⟨b, hb, hrest⟩, halike⟩ := h
    exact ⟨b, hb, halike.bind_of_done hrest⟩

end Workflow

/-! ## Tasks -/

namespace Task

/-- The task is discreet; `ok` is demanded of a result that comes before anything was told, and
`told` of one that comes after. It does not fail after it has told of something. -/
structure Discreet (tenant : String) (ok told : α → Prop) (x : Task γ π α) : Prop where
  run : x.run.Discreet tenant (fun r => ∀ a, r = .ok a → ok a) fun r => ∃ a, r = .ok a ∧ told a

variable {ok told : α → Prop}

theorem discreet_pure {a : α} (h : ok a) : (pure a : Task γ π α).Discreet tenant ok told := by
  refine ⟨fun b hb => ?_⟩
  cases hb
  exact h

theorem discreet_throw (e : ServiceError) :
    (throw e : Task γ π α).Discreet tenant ok told :=
  ⟨fun a ha => by cases ha⟩

theorem discreet_bind {x : Task γ π α} {f : α → Task γ π β} {ok told : β → Prop}
    (h : x.Discreet tenant (fun a => (f a).Discreet tenant ok told)
      fun a => ∃ b, told b ∧ Workflow.Alike (f a).run (.done (.ok b))) :
    (x >>= f).Discreet tenant ok told := by
  refine ⟨Workflow.Discreet.bind (h.run.mono (fun r hr => ?_) fun r hr => ?_)⟩
  · cases r with
    | ok a => exact (hr a rfl).run
    | error e => exact fun b hb => by cases hb
  · obtain ⟨a, rfl, b, hb, halike⟩ := hr
    refine ⟨.ok b, ⟨b, rfl, hb⟩, ?_⟩
    exact halike

theorem discreet_ofExcept {ε : Type} {failure : ε → ServiceError} {x : Except ε α}
    (h : ∀ a, x = .ok a → ok a) : (ofExcept failure x : Task γ π α).Discreet tenant ok told := by
  refine ⟨fun a ha => ?_⟩
  cases x with
  | ok b =>
    cases ha
    exact h _ rfl
  | error e => cases ha

theorem discreet_clock {ok told : Instant → Prop} (h : ∀ time, ok time) :
    (clock : Task γ π Instant).Discreet tenant ok told :=
  ⟨fun time a ha => by cases ha; exact h time⟩

theorem discreet_freshId {ok told : PaymentId → Prop} (h : ∀ id, ok id) :
    (freshId : Task γ π PaymentId).Discreet tenant ok told :=
  ⟨fun id a ha => by cases ha; exact h id⟩

theorem discreet_pay {gateway : γ} {order : RefundOrder} {ok told : RefundReply → Prop}
    (h : ∀ reply, ok reply) : (pay gateway order : Task γ π RefundReply).Discreet tenant ok told := by
  refine ⟨fun reply a ha => ?_⟩
  cases reply with
  | ok reply =>
    cases ha
    exact h _
  | error e => cases ha

theorem discreet_list {query : Store.Query} {ok told : List Payment → Prop}
    (hquery : ∀ p, query.matches p = true → p.tenant = tenant) (h : ∀ found, ok found) :
    (list query : Task γ π (List Payment)).Discreet tenant ok told := by
  refine ⟨hquery, fun found a ha => ?_⟩
  cases found with
  | ok found =>
    cases ha
    exact h _
  | error e => cases ha

theorem discreet_warn {notice : Notice} {ok told : Unit → Prop} (h : told ()) :
    (warn notice : Task γ π Unit).Discreet tenant ok told :=
  ⟨.ok (), ⟨(), rfl, h⟩, .warnLeft (.done _)⟩

end Task

/-! ## Errands -/

namespace Desk

variable (desk : Desk γ π)

theorem discreet_load {id : PaymentId} {ok told : Payment → Prop} (h : ∀ p, ok p) :
    (load tenant id : Task γ π Payment).Discreet tenant ok told := by
  refine ⟨fun p hp => ?_, fun found => ?_⟩
  · have hforeign : (some p).filter (fun p => p.tenant == tenant) = none := by
      simp [Option.filter, hp]
    show ExceptT.bindCont _ (.ok (some p)) = ExceptT.bindCont _ (.ok none)
    simp only [ExceptT.bindCont, hforeign]
    rfl
  · cases found with
    | error why => exact fun a ha => by cases ha
    | ok found =>
      show Workflow.Discreet _ _ _ (ExceptT.bindCont _ (.ok found))
      simp only [ExceptT.bindCont]
      cases Option.filter (fun p => p.tenant == tenant) found with
      | none => exact (Task.discreet_throw _).run
      | some p => exact (Task.discreet_pure (h p)).run

/-- Whoever is told of a payment, its new state is settled. -/
theorem discreet_persist {q : Payment} {ok told : Payment → Prop} (hok : ∀ p, ok p)
    (htold : ∀ p, told p) : (desk.persist q).Discreet tenant ok told := by
  refine ⟨fun saved => ?_⟩
  cases saved with
  | error why => exact fun a ha => by cases ha
  | ok p =>
    have hlift : Alike (Task.lift (publishAll desk.listeners desk.publishTimeoutMillis p.events) :
        Task γ π Unit).run (.done (.ok ())) :=
      (alike_publishAll _ _ _).bind_of_done (.done _)
    have hquiet : Alike (Task.lift (publishAll desk.listeners desk.publishTimeoutMillis p.events) >>=
        fun _ => pure p.commitEvents : Task γ π Payment).run (.done (.ok p.commitEvents)) :=
      hlift.bind_of_done (.done _)
    exact hquiet.discreet (fun a _ => hok a) ⟨_, rfl, htold _⟩

theorem discreet_create (r : CreateRequest) {ok told : Payment → Prop} (hok : ∀ p, ok p)
    (htold : ∀ p, told p) : (desk.create tenant r).Discreet tenant ok told := by
  unfold create
  refine Task.discreet_bind (Task.discreet_ofExcept fun draft _ => ?_)
  refine Task.discreet_bind (Task.discreet_clock fun now => ?_)
  exact Task.discreet_bind (Task.discreet_freshId fun id => desk.discreet_persist hok htold)

theorem discreet_change (id : PaymentId)
    (command : Payment → Instant → Except PaymentError Payment) {ok told : Payment → Prop}
    (hok : ∀ p, ok p) (htold : ∀ p, told p) :
    (desk.change tenant id command).Discreet tenant ok told := by
  refine Task.discreet_bind (discreet_load fun p => ?_)
  refine Task.discreet_bind (Task.discreet_clock fun now => ?_)
  exact Task.discreet_bind (Task.discreet_ofExcept fun q _ => desk.discreet_persist hok htold)

theorem discreet_tryRefund (r : RefundRequest) {ok told : RefundOutcome → Prop} (hok : ∀ p, ok p)
    (htold : ∀ p, told p) : (desk.tryRefund r).Discreet r.tenant ok told := by
  unfold tryRefund
  refine Task.discreet_bind (Task.discreet_ofExcept fun id _ => ?_)
  refine Task.discreet_bind (discreet_load fun p => ?_)
  refine Task.discreet_bind (Task.discreet_ofExcept fun _ _ => ?_)
  refine Task.discreet_bind (Task.discreet_ofExcept fun requested _ => ?_)
  refine Task.discreet_bind (Task.discreet_ofExcept fun plan _ => ?_)
  refine Task.discreet_bind (Task.discreet_ofExcept fun gateway _ => ?_)
  refine Task.discreet_bind (Task.discreet_pay fun reply => ?_)
  split
  · refine Task.discreet_bind (Task.discreet_clock fun now => ?_)
    refine Task.discreet_bind (Task.discreet_ofExcept fun refunded _ => ?_)
    refine Task.discreet_bind (desk.discreet_persist (fun stored => Task.discreet_pure (hok _)) ?_)
    exact fun stored => ⟨_, htold _, .done _⟩
  · refine Task.discreet_bind (Task.discreet_warn ?_)
    exact ⟨_, htold _, .done _⟩

theorem discreet_list (r : ListRequest) {ok told : List Payment → Prop} (hok : ∀ ps, ok ps) :
    (list tenant r : Task γ π (List Payment)).Discreet tenant ok told := by
  refine Task.discreet_bind (Task.discreet_ofExcept fun status _ => ?_)
  refine Task.discreet_bind (Task.discreet_ofExcept fun provider _ => ?_)
  refine Task.discreet_bind (Task.discreet_list (fun p hp => ?_) fun found => ?_)
  · cases status <;> cases provider <;> simp_all [listQuery, Store.Query.matches]
  · exact Task.discreet_pure (hok _)

end Desk

/-- What the use case does and gives back depends on no payment of another tenant, whatever its
result is. -/
abbrev Workflow.IsDiscreet (tenant : String) (w : Workflow γ π α) : Prop :=
  w.Discreet tenant (fun _ => True) fun _ => True

theorem Workflow.IsDiscreet.conclude {w : Workflow γ π α} (h : w.IsDiscreet tenant) (f : α → β) :
    (w.bind fun a => .done (f a)).IsDiscreet tenant :=
  Discreet.bind (h.mono (fun _ _ => trivial) fun a _ => ⟨f a, trivial, .done _⟩)

theorem Task.Discreet.isDiscreet {x : Task γ π α}
    (h : x.Discreet tenant (fun _ => True) fun _ => True) : x.run.IsDiscreet tenant :=
  h.run.mono (fun _ _ => trivial) fun _ _ => trivial

theorem Workflow.IsDiscreet.report {w : Workflow γ π (Except ServiceError RefundOutcome)}
    (h : w.IsDiscreet tenant) (payment : String) :
    (w.bind fun
      | .ok outcome => .done outcome
      | .error e => .warn (.refundFailed e) (.done (.failure payment e.message))).IsDiscreet
        tenant := by
  refine Discreet.bind (h.mono (fun result _ => ?_) fun result _ => ?_)
  · cases result with
    | ok outcome => exact trivial
    | error e => exact ⟨_, trivial, .warnLeft (.done _)⟩
  · cases result with
    | ok outcome => exact ⟨_, trivial, .done _⟩
    | error e => exact ⟨_, trivial, .warnLeft (.done _)⟩

-- a use case that begins with a calculation must not be run to find its first step
section

attribute [local irreducible] Workflow.Discreet Workflow.bind

theorem Desk.isDiscreet_refund (desk : Desk γ π) (r : RefundRequest) :
    (desk.refund r).IsDiscreet r.tenant :=
  (desk.discreet_tryRefund r (fun _ => trivial) fun _ => trivial).isDiscreet.report r.payment

theorem UseCase.isDiscreet (desk : Desk γ π) (u : UseCase) :
    (u.workflow desk).IsDiscreet u.tenant := by
  have hchange : ∀ tenant id command, (desk.change tenant id command).run.IsDiscreet tenant :=
    fun _ id command => (desk.discreet_change id command (fun _ => trivial) fun _ => trivial).isDiscreet
  cases u with
  | create tenant r =>
    exact (desk.discreet_create r (fun _ => trivial) fun _ => trivial).isDiscreet.conclude _
  | startProcessing tenant id => exact (hchange tenant id _).conclude _
  | complete tenant id r => exact (hchange tenant id _).conclude _
  | fail tenant id r => exact (hchange tenant id _).conclude _
  | cancel tenant id r => exact (hchange tenant id _).conclude _
  | refund r => exact (desk.isDiscreet_refund r).conclude _

/-- An errand sees the payments of its tenant only. -/
theorem Errand.isDiscreet (desk : Desk γ π) (e : Errand) :
    (e.workflow desk).IsDiscreet e.tenant := by
  cases e with
  | command call => exact (call.isDiscreet desk).conclude _
  | get tenant id => exact (Desk.discreet_load fun _ => trivial).isDiscreet.conclude _
  | list tenant r => exact (Desk.discreet_list r fun _ => trivial).isDiscreet.conclude _

end

end Paydesk
