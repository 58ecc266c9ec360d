import Paydesk.Proofs.Payment.History

/-!
# The story that events tell

A payment as somebody knows it who has seen nothing but its events.

1. The changes that the events tell of are a tale that ends in the state of the payment (`Tale`):
   it was begun, and then it failed, or it was completed and paid back in one or two parts.
2. Replaying the events gives the transaction, the reason of the failure, the sum of the refunds and
   the dates (`Recount`).
3. A call on a payment whose events tell its story records the event that continues the story
   (`Call.Gives.toldBy`), or none where there is nothing to tell.
-/

namespace Paydesk

/-! ## Tales -/

/-- The changes that lead to a state, as far as others are told of them. -/
inductive Tale : Status → List Change → Prop
  | begun {s : Status} (open_ : s = .pending ∨ s = .processing ∨ s = .cancelled) :
      Tale s [.initiated]
  | failed (reason : String) : Tale .failed [.initiated, .failed reason]
  | completed (transaction : String) : Tale .completed [.initiated, .completed transaction]
  | partly (transaction : String) (amount : Amount) (of : Option String) :
      Tale .partiallyRefunded
        [.initiated, .completed transaction, .refunded amount of true]
  | atOnce (transaction : String) (amount : Amount) (of : Option String) :
      Tale .refunded [.initiated, .completed transaction, .refunded amount of false]
  | inParts (transaction : String) (amount rest : Amount) (of of' : Option String) :
      Tale .refunded
        [.initiated, .completed transaction, .refunded amount of true, .refunded rest of' false]

namespace Tale

variable {s : Status} {changes : List Change}

theorem eq_of_open (h : Tale s changes) (hs : s = .pending ∨ s = .processing) :
    changes = [.initiated] := by
  cases h <;> simp_all

theorem fail (h : Tale .processing changes) (reason : String) :
    Tale .failed (changes ++ [.failed reason]) := by
  rw [h.eq_of_open (.inr rfl)]
  exact .failed reason

theorem complete (h : Tale .processing changes) (transaction : String) :
    Tale .completed (changes ++ [.completed transaction]) := by
  rw [h.eq_of_open (.inr rfl)]
  exact .completed transaction

theorem refundPartly (h : Tale .completed changes) (amount : Amount) (of : Option String) :
    Tale .partiallyRefunded (changes ++ [.refunded amount of true]) := by
  cases h with
  | begun hopen => simp at hopen
  | completed transaction => exact .partly transaction amount of

theorem refundWholly (h : Tale s changes) (hs : s = .completed ∨ s = .partiallyRefunded)
    (amount : Amount) (of : Option String) :
    Tale .refunded (changes ++ [.refunded amount of false]) := by
  cases h with
  | completed transaction => exact .atOnce transaction amount of
  | partly transaction first of' => exact .inParts transaction first amount of' of
  | begun hopen => rcases hs with rfl | rfl <;> simp at hopen
  | _ => simp at hs

end Tale

/-! ## Replaying events -/

/-- What one knows of a payment from its events. -/
structure Recount where
  transaction : Option String
  reason : Option String
  refunded : Option Amount
  completedAt : Option Instant
  failedAt : Option Instant
  refundedAt : Option Instant

namespace Recount

/-- Nothing has happened yet. -/
def blank : Recount :=
  ⟨none, none, none, none, none, none⟩

/-- The sum of the refunds after one more. -/
def total (refunded : Option Amount) (amount : Amount) : Option Amount :=
  match refunded with
  | none => some amount
  | some previous => (previous.add amount).toOption

/-- What one knows after one more event. -/
def hear (r : Recount) (e : Event) : Recount :=
  match e.change with
  | .initiated => r
  | .completed transaction =>
    { r with transaction := some transaction, completedAt := some e.occurredAt }
  | .failed reason => { r with reason := some reason, failedAt := some e.occurredAt }
  | .refunded amount _ _ =>
    { r with refunded := total r.refunded amount, refundedAt := some e.occurredAt }

/-- What one knows from events, the first one first. -/
def ofEvents (events : List Event) : Recount :=
  events.foldl hear blank

theorem ofEvents_append_singleton (events : List Event) (e : Event) :
    ofEvents (events ++ [e]) = (ofEvents events).hear e := by
  unfold ofEvents
  rw [List.foldl_append]
  rfl

end Recount

/-- What a change pays back, in cents. -/
def Change.refundCents : Change → Nat
  | .refunded amount _ _ => amount.cents
  | _ => 0

/-- What events tell that was paid back, in cents. -/
def refundCents (events : List Event) : Nat :=
  (events.map fun e => e.change.refundCents).sum

theorem refundCents_append_singleton (events : List Event) (e : Event) :
    refundCents (events ++ [e]) = refundCents events + e.change.refundCents := by
  unfold refundCents
  simp

namespace Payment

/-- What the events of a payment should let one know. A reason is told of a failure only. -/
def recount (p : Payment) : Recount where
  transaction := p.transaction
  reason := if p.status = .failed then p.reason else none
  refunded := p.refunded
  completedAt := p.completedAt
  failedAt := p.failedAt
  refundedAt := p.refundedAt

/-- The event names the payment, its owner and what it is about. -/
structure NamedBy (p : Payment) (e : Event) : Prop where
  payment : e.payment = p.id
  tenant : e.tenant = p.tenant
  provider : e.provider = p.provider
  amount : e.amount = p.amount
  currency : e.currency = p.currency
  order : e.order = p.order

/-- The events tell the story of the payment, the first one first. A refund is a partial one exactly
if there is a balance left after it. -/
structure ToldBy (p : Payment) (events : List Event) : Prop where
  tale : Tale p.status (events.map Event.change)
  named : ∀ e ∈ events, p.NamedBy e
  sum : refundCents events = p.refundedCents
  settles : ∀ before e after amount of isPartial, events = before ++ e :: after →
    e.change = .refunded amount of isPartial →
    (isPartial = true ↔ refundCents (before ++ [e]) < p.amount.cents)
  replay : Recount.ofEvents events = p.recount

variable {p q : Payment} {events : List Event}

theorem NamedBy.of_akin {e : Event} (h : p.NamedBy e) (hakin : Akin p q) : q.NamedBy e where
  payment := h.payment.trans hakin.id.symm
  tenant := h.tenant.trans hakin.tenant.symm
  provider := h.provider.trans hakin.provider.symm
  amount := h.amount.trans hakin.amount.symm
  currency := h.currency.trans hakin.currency.symm
  order := h.order.trans hakin.order.symm

theorem NamedBy.of_same {e : Event} (h : p.NamedBy e) (hsame : SameIdentity p q) : q.NamedBy e :=
  h.of_akin { hsame with version := rfl }

theorem namedBy_eventOf (p : Payment) (now : Instant) (change : Change) :
    p.NamedBy (p.eventOf now change) :=
  ⟨rfl, rfl, rfl, rfl, rfl, rfl⟩

theorem ToldBy.saved (h : p.ToldBy events) (version : Nat) :
    (p.withVersion version).commitEvents.ToldBy events :=
  ⟨h.tale, fun e he => (h.named e he).of_akin ((SameIdentity.refl p).akin version), h.sum, h.settles,
    h.replay⟩

theorem toldBy_create (id : PaymentId) (now : Instant) (draft : Draft) :
    (create id now draft).ToldBy (create id now draft).events where
  tale := .begun (.inl rfl)
  named := by
    intro e he
    rw [List.mem_singleton.1 he]
    exact namedBy_eventOf _ now .initiated
  sum := rfl
  settles := by
    intro before e after amount of isPartial hevents hchange
    have he : e ∈ (create id now draft).events := by rw [hevents]; simp
    rw [List.mem_singleton.1 he] at hchange
    cases hchange
  replay := rfl

/-- A change of which nobody is told, between states in which nothing was told but that the payment
was made. -/
theorem ToldBy.silent (h : p.ToldBy events) (hsame : SameIdentity p q)
    (hp : p.status = .pending ∨ p.status = .processing)
    (hq : q.status = .processing ∨ q.status = .cancelled) (hrefunded : q.refunded = p.refunded)
    (hrecount : q.recount = p.recount) : q.ToldBy events where
  tale := by
    rw [h.tale.eq_of_open hp]
    exact .begun (.inr hq)
  named := fun e he => (h.named e he).of_same hsame
  sum := by
    rw [h.sum]
    unfold refundedCents
    rw [hrefunded]
  settles := by
    rw [hsame.amount]
    exact h.settles
  replay := h.replay.trans hrecount.symm

/-- A change of which others are told records the event that continues the story. -/
theorem ToldBy.tell (h : p.ToldBy events) {now : Instant} {change : Change}
    (hsame : SameIdentity p (q.record now change)) (hquiet : q.events = [])
    (htale : Tale q.status (events.map Event.change ++ [change]))
    (hsum : q.refundedCents = p.refundedCents + change.refundCents)
    (hpartial : ∀ amount of isPartial, change = .refunded amount of isPartial →
      (isPartial = true ↔ q.refundedCents < q.amount.cents))
    (hrecount : q.recount = p.recount.hear (q.eventOf now change)) :
    (q.record now change).ToldBy (events ++ (q.record now change).events) := by
  have hone : (q.record now change).events = [q.eventOf now change] := by
    show q.events ++ _ = _
    rw [hquiet]
    rfl
  rw [hone]
  generalize he : q.eventOf now change = e at hrecount
  obtain rfl : e.change = change := by rw [← he]; rfl
  have hcents : refundCents (events ++ [e]) = q.refundedCents := by
    rw [refundCents_append_singleton, h.sum, hsum]
  refine ⟨?_, ?_, hcents, ?_, ?_⟩
  · rw [List.map_append]
    exact htale
  · intro e' he'
    rcases List.mem_append.1 he' with hold | hnew
    · exact (h.named e' hold).of_same hsame
    · rw [List.mem_singleton.1 hnew, ← he]
      exact namedBy_eventOf (q.record now e.change) now _
  · intro before e' after amount of isPartial hevents hchange
    show _ ↔ _ < q.amount.cents
    rcases List.eq_nil_or_concat after with rfl | ⟨earlier, last, rfl⟩
    · obtain ⟨rfl, heq⟩ := List.append_inj' hevents rfl
      obtain rfl : e = e' := (List.cons.inj heq).1
      rw [hcents]
      exact hpartial amount of isPartial hchange
    · -- an event of the story as it was before
      have hevents' : events ++ [e] = (before ++ e' :: earlier) ++ [last] := by
        simpa using hevents
      obtain ⟨hold, -⟩ := List.append_inj' hevents' rfl
      rw [show q.amount = p.amount from hsame.amount]
      exact h.settles before e' earlier amount of isPartial hold hchange
  · rw [Recount.ofEvents_append_singleton, h.replay, ← hrecount]
    rfl

theorem total_of_refundedAfter {amount total : Amount} (h : p.refundedAfter amount = .ok total) :
    Recount.total p.refunded amount = some total := by
  unfold refundedAfter at h
  unfold Recount.total
  cases hrefunded : p.refunded with
  | none =>
    rw [hrefunded] at h
    rw [Except.ok.inj h]
  | some previous =>
    rw [hrefunded] at h
    cases hadd : previous.add amount with
    | error why => simp [hadd, checked] at h
    | ok sum =>
      simp only [hadd, checked, Except.ok.injEq] at h
      simp only [hadd, Except.toOption, h]

/-- What a command records continues the story of the payment. -/
theorem Call.Gives.toldBy {c : Call} {plan : Option RefundPlan} (h : Gives p c q plan)
    (hcommand : c.IsCommand) (hquiet : p.events = []) (htold : p.ToldBy events) :
    q.ToldBy (events ++ q.events) := by
  have htale := htold.tale
  have hsame := h.sameIdentity
  have hsilent : events ++ p.events = events := by rw [hquiet, List.append_nil]
  cases h with
  | startProcessing hstatus =>
    show ToldBy _ (events ++ p.events)
    rw [hsilent]
    refine htold.silent hsame (.inl hstatus) (.inl rfl) rfl ?_
    simp [recount, hstatus]
  | cancel hstatus =>
    show ToldBy _ (events ++ p.events)
    rw [hsilent]
    refine htold.silent hsame hstatus (.inr rfl) rfl ?_
    rcases hstatus with hstatus | hstatus <;> simp [recount, hstatus, note]
  | @complete now transaction data hstatus _ =>
    rw [hstatus] at htale
    refine htold.tell hsame hquiet (htale.complete transaction) rfl ?_ ?_
    · exact fun _ _ _ hchange => nomatch hchange
    · simp [recount, Recount.hear, hstatus, eventOf, note, annotate]
  | @fail now reason data hstatus =>
    rw [hstatus] at htale
    refine htold.tell hsame hquiet (htale.fail reason) rfl ?_ ?_
    · exact fun _ _ _ hchange => nomatch hchange
    · simp [recount, Recount.hear, eventOf, note, annotate]
  | @refund now amount reason plan total hplan htotal =>
    have hsum := refundedAfter_cents htotal
    have hreplayed := total_of_refundedAfter htotal
    refine htold.tell hsame hquiet ?_ hsum ?_ ?_
    · show Tale plan.target _
      rcases planRefund_status hplan with
        ⟨hstatus, hpartial, htarget⟩ | ⟨hstatus, hpartial, htarget⟩
      · rw [htarget, hpartial]
        exact (hstatus ▸ htale).refundPartly plan.amount p.transaction
      · rw [htarget, hpartial]
        exact htale.refundWholly hstatus plan.amount p.transaction
    · intro amount of isPartial hchange
      injection hchange with _ _ hpartial
      rw [← hpartial]
      show _ ↔ total.cents < p.amount.cents
      rw [hsum]
      exact (planRefund_cents hplan).2
    · rcases planRefund_status hplan with ⟨hstatus, -, htarget⟩ | ⟨hstatus | hstatus, -, htarget⟩ <;>
        simp [recount, Recount.hear, hstatus, htarget, eventOf, hreplayed]
  | updateMetadata => exact hcommand.elim
  | commitEvents => exact hcommand.elim
  | reload => exact hcommand.elim

end Payment

end Paydesk
