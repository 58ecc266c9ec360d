import Paydesk.Proofs.Service.Interleaving

/-!
# Tasks that keep to a protocol

A task keeps to a protocol if it takes permitted steps only and ends in a stage that fits its result
or its failure (`Task.Keeps`). There is one rule for each step, one for calculations that may fail,
and one for tasks in a row (`Task.keeps_bind`).
-/

namespace Paydesk

variable {γ π α β σ : Type} {δ : Protocol γ π σ} {s : σ}

namespace Task

/-- The demands on the end of a task: one on a result, one on a failure. -/
def Ends (ok : σ → α → Prop) (fails : σ → ServiceError → Prop) (t : σ) :
    Except ServiceError α → Prop
  | .ok a => ok t a
  | .error e => fails t e

/-- From the stage `s` on, the task takes permitted steps only, and ends in a stage that fits its
result or its failure. -/
structure Keeps (δ : Protocol γ π σ) (ok : σ → α → Prop) (fails : σ → ServiceError → Prop) (s : σ)
    (x : Task γ π α) : Prop where
  run : x.run.Keeps δ (Ends ok fails) s

variable {ok : σ → α → Prop} {fails : σ → ServiceError → Prop}

theorem keeps_pure {a : α} (h : ok s a) : (pure a : Task γ π α).Keeps δ ok fails s :=
  ⟨h⟩

theorem keeps_throw {e : ServiceError} (h : fails s e) :
    (throw e : Task γ π α).Keeps δ ok fails s :=
  ⟨h⟩

theorem keeps_bind {x : Task γ π α} {f : α → Task γ π β} {ok : σ → β → Prop}
    (h : x.Keeps δ (fun t a => (f a).Keeps δ ok fails t) fails s) :
    (x >>= f).Keeps δ ok fails s := by
  refine ⟨Paydesk.keeps_bind h.run fun t r hend => ?_⟩
  cases r with
  | ok a => exact hend.run
  | error e => exact hend

/-! ## The steps -/

theorem keeps_ofExcept {ε : Type} {failure : ε → ServiceError} {x : Except ε α}
    (hok : ∀ a, x = .ok a → ok s a) (herror : ∀ e, x = .error e → fails s (failure e)) :
    (ofExcept failure x : Task γ π α).Keeps δ ok fails s := by
  constructor
  cases x with
  | ok a => exact hok a rfl
  | error e => exact herror e rfl

theorem keeps_clock {ok : σ → Instant → Prop}
    (h : ∀ time, ∃ t, δ s (.clock time) t ∧ ok t time) :
    (clock : Task γ π Instant).Keeps δ ok fails s :=
  ⟨h⟩

theorem keeps_freshId {ok : σ → PaymentId → Prop}
    (h : ∀ id, ∃ t, δ s (.freshId id) t ∧ ok t id) :
    (freshId : Task γ π PaymentId).Keeps δ ok fails s :=
  ⟨h⟩

theorem keeps_find {id : PaymentId} {ok : σ → Option Payment → Prop}
    (h : ∀ found, (∀ p ∈ found, p.id = id ∧ p.events = []) →
      ∃ t, δ s (.find id found) t ∧ ok t found) :
    (find id : Task γ π (Option Payment)).Keeps δ ok fails s :=
  ⟨h⟩

theorem keeps_save {p : Payment} {ok : σ → Payment → Prop}
    (hok : ∀ version, ∃ t, δ s (.save p (.ok version)) t ∧ ok t (p.withVersion version))
    (herror : ∀ why, ∃ t, δ s (.save p (.error why)) t ∧
      fails t (.ofStore (.conflict why))) :
    (save p : Task γ π Payment).Keeps δ ok fails s :=
  ⟨⟨hok, herror⟩⟩

theorem keeps_pay {gateway : γ} {order : RefundOrder} {ok : σ → RefundReply → Prop}
    (hok : ∀ reply, ∃ t, δ s (.pay gateway order (.ok reply)) t ∧ ok t reply)
    (herror : ∀ e, ∃ t, δ s (.pay gateway order (.error e)) t ∧ fails t (.ofGateway e)) :
    (pay gateway order : Task γ π RefundReply).Keeps δ ok fails s := by
  constructor
  intro reply
  cases reply with
  | ok reply => exact hok reply
  | error e => exact herror e

theorem keeps_warn {notice : Notice} {ok : σ → Unit → Prop}
    (h : ∃ t, δ s (.warn notice) t ∧ ok t ()) :
    (warn notice : Task γ π Unit).Keeps δ ok fails s :=
  ⟨h⟩

theorem keeps_lift {w : Workflow γ π α} {mid : σ → α → Prop} (h : w.Keeps δ mid s)
    (hok : ∀ t a, mid t a → ok t a) : (lift w : Task γ π α).Keeps δ ok fails s :=
  ⟨Paydesk.keeps_bind h hok⟩

end Task

end Paydesk
