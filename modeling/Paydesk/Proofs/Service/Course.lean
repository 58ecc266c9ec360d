import Paydesk.Proofs.Service.Task
import Paydesk.Proofs.Service.UseCase

/-!
# The course of a call

Every step of a call of the service with the data that it depends on (`Course.Step`): which payment
is loaded, what is asked of a gateway, what is stored at which time, and what is offered to whom in
which order. A call fails only where the stage that it has come to is a reason to (`Course.Fails`).
`Course.keeps` says that every call follows its course; the coarser steps of use cases are a view of
it (`UseCase.keeps`).
-/

namespace Paydesk

variable {γ π : Type}

namespace UseCase

def tenant : UseCase → String
  | .create tenant _ => tenant
  | .startProcessing tenant _ => tenant
  | .complete tenant _ _ => tenant
  | .fail tenant _ _ => tenant
  | .cancel tenant _ _ => tenant
  | .refund r => r.tenant

/-- What the call does to the payment that it has loaded, if it asks nothing of a gateway. -/
def command (now : Instant) : UseCase → Option Payment.Call
  | .create _ _ => none
  | .startProcessing _ _ => some (.startProcessing now)
  | .complete _ _ r => some (.complete now r.transaction r.metadata)
  | .fail _ _ r => some (.fail now r.reason r.metadata)
  | .cancel _ _ r => some (.cancel now r.reason)
  | .refund _ => none

end UseCase

/-- The answer of a call that has failed. -/
inductive Answer.IsFailure : Answer → Prop
  | error (e : ServiceError) : IsFailure (.payment (.error e))
  | failure (payment text : String) : IsFailure (.refund (.failure payment text))

/-- A request asks for this refund of a payment, and the refund goes to this gateway. -/
structure Desk.Prepares (desk : Desk γ π) (r : RefundRequest) (p : Payment)
    (plan : Payment.RefundPlan) (gateway : γ) : Prop where
  planned : ∃ requested, Desk.requestedAmount r.amount = .ok requested ∧
    p.planRefund requested = .ok plan
  routed : desk.gateway p = .ok gateway

/-- The order of a planned refund. -/
def RefundRequest.order (r : RefundRequest) (p : Payment) (plan : Payment.RefundPlan) :
    RefundOrder where
  payment := p.id
  transaction := p.transaction
  amount := plan.amount
  currency := p.currency
  reason := r.reason

namespace Course

/-! ## What is still to be offered -/

/-- Events, each with the listeners to whom it has to be offered yet. -/
abbrev Agenda (π : Type) : Type :=
  List (List π × Event)

namespace Agenda

/-- Leaves the events in front out that have been offered to all. -/
def tidy (agenda : Agenda π) : Agenda π :=
  agenda.dropWhile fun round => round.1.isEmpty

/-- Every event has to be offered to every listener. -/
def opened (listeners : List π) (events : List Event) : Agenda π :=
  tidy (events.map fun event => (listeners, event))

/-- What is left when the next listener has had the first event. One that never answers keeps it
from those after it. -/
def after (listeners : List π) (event : Event) (later : Agenda π) : Delivery → Agenda π
  | .pending => tidy later
  | _ => tidy ((listeners, event) :: later)

@[simp] theorem tidy_nil_cons (event : Event) (later : Agenda π) :
    tidy (([], event) :: later) = tidy later := rfl

@[simp] theorem tidy_cons_cons (listener : π) (listeners : List π) (event : Event)
    (later : Agenda π) :
    tidy ((listener :: listeners, event) :: later) = (listener :: listeners, event) :: later := rfl

end Agenda

/-! ## Stages and steps -/

/-- What is told of a refund that was paid back. -/
structure Receipt where
  plan : Payment.RefundPlan
  raw : Option Json

/-- How far a call is. -/
inductive Stage (π : Type) where
  /-- Nothing was done yet. -/
  | idle (u : UseCase)
  /-- The request for a new payment is valid. -/
  | drafted (draft : Payment.Draft) (now : Instant)
  | named (draft : Payment.Draft) (now : Instant) (id : PaymentId)
  /-- No payment was found. -/
  | missed
  /-- A payment was loaded. -/
  | held (u : UseCase) (p : Payment)
  /-- A payment of the tenant was loaded, and its command has the present time. -/
  | timed (u : UseCase) (p : Payment) (now : Instant)
  /-- A gateway has answered the order of a refund. -/
  | answered (r : RefundRequest) (p : Payment) (plan : Payment.RefundPlan)
      (reply : Except GatewayError RefundReply)
  /-- The refund was approved and has the present time. -/
  | granted (r : RefundRequest) (p : Payment) (receipt : Receipt) (now : Instant)
  | refused (q : Payment) (why : Conflict)
  /-- The save was accepted; the payment has its new version and still its events. -/
  | telling (q : Payment) (receipt : Option Receipt) (agenda : Agenda π)

/-- The stage after a save. -/
def Stage.saved (listeners : List π) (q : Payment) (receipt : Option Receipt) :
    Except Conflict Nat → Stage π
  | .ok version => .telling (q.withVersion version) receipt (Agenda.opened listeners q.events)
  | .error why => .refused q why

/-- The steps of a call. -/
inductive Step (desk : Desk γ π) : Protocol γ π (Stage π)
  | warn {s : Stage π} {notice : Notice} : Step desk s (.warn notice) s
  | draft {tenant : String} {r : CreateRequest} {draft : Payment.Draft} {now : Instant}
      (valid : Desk.draft tenant r = .ok draft) :
      Step desk (.idle (.create tenant r)) (.clock now) (.drafted draft now)
  | draw {draft : Payment.Draft} {now : Instant} {id : PaymentId} :
      Step desk (.drafted draft now) (.freshId id) (.named draft now id)
  | create {draft : Payment.Draft} {now : Instant} {id : PaymentId}
      {version : Except Conflict Nat} :
      Step desk (.named draft now id) (.save (Payment.create id now draft) version)
        (.saved desk.listeners (Payment.create id now draft) none version)
  | miss {u : UseCase} {id : PaymentId} (target : u.target = some id) :
      Step desk (.idle u) (.find id none) .missed
  | load {u : UseCase} {p : Payment} (target : u.target = some p.id) (quiet : p.events = []) :
      Step desk (.idle u) (.find p.id (some p)) (.held u p)
  | time {u : UseCase} {p : Payment} {now : Instant} (own : p.tenant = u.tenant)
      (command : u.command now ≠ none) :
      Step desk (.held u p) (.clock now) (.timed u p now)
  | change {u : UseCase} {p q : Payment} {now : Instant} {c : Payment.Call}
      {version : Except Conflict Nat} (command : u.command now = some c)
      (gives : c.Gives p q none) :
      Step desk (.timed u p now) (.save q version) (.saved desk.listeners q none version)
  | pay {r : RefundRequest} {p : Payment} {plan : Payment.RefundPlan} {gateway : γ}
      {reply : Except GatewayError RefundReply} (own : p.tenant = r.tenant)
      (prepares : desk.Prepares r p plan gateway) :
      Step desk (.held (.refund r) p) (.pay gateway (r.order p plan) reply)
        (.answered r p plan reply)
  | grant {r : RefundRequest} {p : Payment} {plan : Payment.RefundPlan} {reply : RefundReply}
      {now : Instant} (given : reply.isApproved = true) :
      Step desk (.answered r p plan (.ok reply)) (.clock now) (.granted r p ⟨plan, reply.raw⟩ now)
  | refund {r : RefundRequest} {p q : Payment} {receipt : Receipt} {now : Instant}
      {version : Except Conflict Nat}
      (gives : Payment.Call.Gives p (.refund now (some receipt.plan.amount) r.reason) q
        (some receipt.plan)) :
      Step desk (.granted r p receipt now) (.save q version)
        (.saved desk.listeners q (some receipt) version)
  | offer {q : Payment} {receipt : Option Receipt} {listener : π} {listeners : List π}
      {event : Event} {later : Agenda π} {delivery : Delivery} :
      Step desk (.telling q receipt ((listener :: listeners, event) :: later))
        (.offer listener event delivery)
        (.telling q receipt (Agenda.after listeners event later delivery))

/-- The stages in which a call may fail. -/
inductive Fails (desk : Desk γ π) : Stage π → Prop
  | invalid {tenant : String} {r : CreateRequest} {e : PaymentError}
      (invalid : Desk.draft tenant r = .error e) : Fails desk (.idle (.create tenant r))
  | unnamed {r : RefundRequest} {why : Invalid} (unnamed : PaymentId.read r.payment = .error why) :
      Fails desk (.idle (.refund r))
  | missed : Fails desk .missed
  | foreign {u : UseCase} {p : Payment} (foreign : p.tenant ≠ u.tenant) : Fails desk (.held u p)
  | unprepared {r : RefundRequest} {p : Payment}
      (unprepared : ∀ plan gateway, ¬ desk.Prepares r p plan gateway) :
      Fails desk (.held (.refund r) p)
  | forbidden {u : UseCase} {p : Payment} {now : Instant} {c : Payment.Call} {e : PaymentError}
      (command : u.command now = some c) (forbidden : c.run p = .error e) :
      Fails desk (.timed u p now)
  | declined {r : RefundRequest} {p : Payment} {plan : Payment.RefundPlan}
      {reply : Except GatewayError RefundReply}
      (declined : ∀ answer, reply = .ok answer → answer.isApproved = false) :
      Fails desk (.answered r p plan reply)
  | conflict {q : Payment} {why : Conflict} : Fails desk (.refused q why)

/-- The stages in which a call may end, with its answer. -/
inductive Ends (desk : Desk γ π) : Stage π → Answer → Prop
  | payment {q : Payment} : Ends desk (.telling q none []) (.payment (.ok q.commitEvents))
  | refund {q : Payment} {receipt : Receipt} :
      Ends desk (.telling q (some receipt) [])
        (.refund (.success q.id q.status receipt.plan.amount receipt.plan.isPartial receipt.raw))
  | failure {s : Stage π} {answer : Answer} (fails : Fails desk s) (failure : answer.IsFailure) :
      Ends desk s answer

/-! ## The parts of a call -/

variable (desk : Desk γ π)

/-- A task that fails ends in a stage that is a reason to. -/
abbrev Failed (s : Stage π) (_ : ServiceError) : Prop :=
  Fails desk s

theorem keeps_load {u : UseCase} {id : PaymentId} {ok : Stage π → Payment → Prop}
    (htarget : u.target = some id)
    (hok : ∀ p, p.id = id → p.tenant = u.tenant → ok (.held u p) p) :
    (Desk.load u.tenant id : Task γ π Payment).Keeps (Step desk) ok (Failed desk) (.idle u) := by
  refine Task.keeps_bind (Task.keeps_find fun found lawful => ?_)
  cases found with
  | none => exact ⟨_, .miss htarget, Task.keeps_throw .missed⟩
  | some p =>
    obtain ⟨rfl, hquiet⟩ := lawful p rfl
    refine ⟨_, .load htarget hquiet, ?_⟩
    by_cases htenant : p.tenant = u.tenant
    · simp only [Option.filter, htenant, beq_self_eq_true]
      exact Task.keeps_pure (hok p rfl htenant)
    · simp only [Option.filter, beq_eq_false_iff_ne.2 htenant]
      exact Task.keeps_throw (.foreign htenant)

/-- An event is offered to one listener after the other, until one never answers. -/
theorem keeps_offerAll (q : Payment) (receipt : Option Receipt) (event : Event)
    (first : Option PublishError) (listeners : List π) (later : Agenda π) :
    (offerAll event first listeners : Workflow γ π _).Keeps (Step desk)
      (fun t _ => t = .telling q receipt (Agenda.tidy later))
      (.telling q receipt (Agenda.tidy ((listeners, event) :: later))) := by
  induction listeners generalizing first with
  | nil => cases first <;> exact rfl
  | cons listener rest ih =>
    intro delivery
    refine ⟨_, .offer, ?_⟩
    cases delivery with
    | accepted => exact ih first
    | refused error => exact ⟨_, .warn, ih _⟩
    | pending => exact rfl

/-- What becomes of an event does not matter for those after it. -/
theorem keeps_publish (q : Payment) (receipt : Option Receipt) (listeners : List π)
    (timeoutMillis : Nat) (event : Event) (later : Agenda π) :
    (publish listeners timeoutMillis event : Workflow γ π Unit).Keeps (Step desk)
      (fun t _ => t = .telling q receipt (Agenda.tidy later))
      (.telling q receipt (Agenda.tidy ((listeners, event) :: later))) := by
  refine keeps_bind (keeps_offerAll desk q receipt event none listeners later) ?_
  rintro t outcome rfl
  rcases outcome with _ | _ | _
  · exact ⟨_, .warn, rfl⟩
  · exact ⟨_, .warn, rfl⟩
  · exact rfl

theorem keeps_publishAll (q : Payment) (receipt : Option Receipt) (listeners : List π)
    (timeoutMillis : Nat) (events : List Event) :
    (publishAll listeners timeoutMillis events : Workflow γ π Unit).Keeps (Step desk)
      (fun t _ => t = .telling q receipt [])
      (.telling q receipt (Agenda.opened listeners events)) := by
  induction events with
  | nil => exact rfl
  | cons event rest ih =>
    refine keeps_bind (keeps_publish desk q receipt listeners timeoutMillis event _) ?_
    rintro t _ rfl
    exact ih

theorem keeps_persist {s : Stage π} {q : Payment} {receipt : Option Receipt}
    {ok : Stage π → Payment → Prop}
    (hsave : ∀ version, Step desk s (.save q version) (.saved desk.listeners q receipt version))
    (hok : ∀ version,
      ok (.telling (q.withVersion version) receipt []) (q.withVersion version).commitEvents) :
    (desk.persist q).Keeps (Step desk) ok (Failed desk) s := by
  refine Task.keeps_bind (Task.keeps_save (fun version => ⟨_, hsave (.ok version), ?_⟩)
    fun why => ⟨_, hsave (.error why), .conflict⟩)
  have hpublish := keeps_publishAll desk (q.withVersion version) receipt desk.listeners
    desk.publishTimeoutMillis (q.withVersion version).events
  refine Task.keeps_bind (Task.keeps_lift hpublish ?_)
  rintro t _ rfl
  exact Task.keeps_pure (hok version)

/-- The payment that a call gives is stored, and everyone was told. -/
def Stored (s : Stage π) (p : Payment) : Prop :=
  ∃ q, s = .telling q none [] ∧ p = q.commitEvents

theorem keeps_create (tenant : String) (r : CreateRequest) :
    (desk.create tenant r).Keeps (Step desk) Stored (Failed desk) (.idle (.create tenant r)) := by
  unfold Desk.create
  refine Task.keeps_bind (Task.keeps_ofExcept (fun draft hdraft => ?_) fun e he => .invalid he)
  refine Task.keeps_bind (Task.keeps_clock fun now => ⟨_, .draft hdraft, ?_⟩)
  refine Task.keeps_bind (Task.keeps_freshId fun id => ⟨_, .draw, ?_⟩)
  exact keeps_persist desk (fun _ => .create) fun version => ⟨_, rfl, rfl⟩

theorem keeps_change {u : UseCase} {id : PaymentId}
    {command : Payment → Instant → Except PaymentError Payment} {call : Instant → Payment.Call}
    (htarget : u.target = some id) (hcall : ∀ now, u.command now = some (call now))
    (hcommand : ∀ p now, (call now).run p = (command p now).map fun q => (q, none)) :
    (desk.change u.tenant id command).Keeps (Step desk) Stored (Failed desk) (.idle u) := by
  refine Task.keeps_bind (keeps_load desk htarget fun p _ hown => ?_)
  have htimed : ∀ now, u.command now ≠ none := fun now => by simp [hcall now]
  refine Task.keeps_bind (Task.keeps_clock fun now => ⟨_, .time hown (htimed now), ?_⟩)
  refine Task.keeps_bind (Task.keeps_ofExcept (fun q hq => ?_) fun e he => ?_)
  · have hgives : (call now).Gives p q none := Payment.Call.gives_of_run (by rw [hcommand, hq]; rfl)
    exact keeps_persist desk (fun _ => .change (hcall now) hgives) fun version => ⟨_, rfl, rfl⟩
  · exact .forbidden (hcall now) (by rw [hcommand, he]; rfl)

/-- The part of a refund that begins with the order. -/
def order (r : RefundRequest) (p : Payment) (plan : Payment.RefundPlan) (gateway : γ) :
    Task γ π RefundOutcome := do
  let reply ← Task.pay gateway (r.order p plan)
  if reply.isApproved then
    let now ← Task.clock
    let (applied, refunded) ← Task.ofExcept .ofPayment (p.refund now (some plan.amount) r.reason)
    let stored ← desk.persist refunded
    return .success p.id stored.status applied.amount applied.isPartial reply.raw
  else
    let text := reply.error.getD Desk.defaultDecline
    Task.warn (.refundDeclined p.provider text)
    return .failure p.id.toText text

theorem keeps_order {r : RefundRequest} {p : Payment} {plan : Payment.RefundPlan} {gateway : γ}
    (hown : p.tenant = r.tenant) (hprepares : desk.Prepares r p plan gateway) :
    (order desk r p plan gateway).Keeps (Step desk)
      (fun s outcome => Ends desk s (.refund outcome)) (Failed desk) (.held (.refund r) p) := by
  obtain ⟨requested, -, hplan⟩ := hprepares.planned
  have hagain := Payment.planRefund_again hplan
  refine Task.keeps_bind (Task.keeps_pay (fun reply => ⟨_, .pay hown hprepares, ?_⟩)
    fun e => ⟨_, .pay hown hprepares, .declined nofun⟩)
  by_cases happroved : reply.isApproved = true
  · rw [if_pos happroved]
    refine Task.keeps_bind (Task.keeps_clock fun now => ⟨_, .grant happroved, ?_⟩)
    obtain ⟨q, hrefund⟩ := Payment.exists_refund hagain now r.reason
    have hgives : Payment.Call.Gives p (.refund now (some plan.amount) r.reason) q (some plan) :=
      Payment.Call.gives_of_run (by simp only [Payment.Call.run, hrefund, Except.map])
    rw [hrefund]
    refine Task.keeps_bind (Task.keeps_ofExcept (fun result hresult => ?_) fun e he => ?_)
    case refine_2 => cases he
    cases hresult
    have hsave : ∀ version, Step desk (.granted r p ⟨plan, reply.raw⟩ now) (.save q version)
        (.saved desk.listeners q (some ⟨plan, reply.raw⟩) version) := fun _ => .refund hgives
    refine Task.keeps_bind (keeps_persist desk hsave fun version => Task.keeps_pure ?_)
    rw [← hgives.sameIdentity.id]
    exact .refund
  · rw [if_neg happroved]
    refine Task.keeps_bind (Task.keeps_warn ⟨_, .warn, Task.keeps_pure ?_⟩)
    refine .failure (.declined fun answer hanswer => ?_) (.failure _ _)
    cases hanswer
    simpa using happroved

theorem keeps_tryRefund (r : RefundRequest) :
    (desk.tryRefund r).Keeps (Step desk) (fun s outcome => Ends desk s (.refund outcome))
      (Failed desk) (.idle (.refund r)) := by
  refine Task.keeps_bind (Task.keeps_ofExcept (fun id hread => ?_) fun e he => .unnamed he)
  have htarget : (UseCase.refund r).target = some id := by
    simp only [UseCase.target, hread, Except.toOption]
  refine Task.keeps_bind (keeps_load desk (u := .refund r) htarget fun p hid hown => ?_)
  subst hid
  -- each check that fails is one that a prepared refund has passed
  refine Task.keeps_bind (Task.keeps_ofExcept (fun _ _ => ?_) fun e he => ?_)
  case refine_2 =>
    refine .unprepared fun plan gateway hprepares => ?_
    obtain ⟨requested, -, hplan⟩ := hprepares.planned
    obtain ⟨-, -, -, -, -, -, hstatus, -⟩ := Payment.planRefund_ok hplan
    simp [Desk.requireRefundable, hstatus] at he
  refine Task.keeps_bind (Task.keeps_ofExcept (fun requested hrequested => ?_) fun e he => ?_)
  case refine_2 =>
    refine .unprepared fun plan gateway hprepares => ?_
    obtain ⟨requested, hrequested, -⟩ := hprepares.planned
    rw [he] at hrequested
    cases hrequested
  refine Task.keeps_bind (Task.keeps_ofExcept (fun plan hplan => ?_) fun e he => ?_)
  case refine_2 =>
    refine .unprepared fun plan gateway hprepares => ?_
    obtain ⟨requested', hrequested', hplan⟩ := hprepares.planned
    obtain rfl := Except.ok.inj (hrequested.symm.trans hrequested')
    rw [he] at hplan
    cases hplan
  refine Task.keeps_bind (Task.keeps_ofExcept (fun gateway hgateway => ?_) fun e he => ?_)
  case refine_2 =>
    refine .unprepared fun plan gateway hprepares => ?_
    rw [hprepares.routed] at he
    cases he
  exact keeps_order desk hown ⟨⟨requested, hrequested, hplan⟩, hgateway⟩

/-! ## All calls -/

theorem keeps_command {x : Task γ π Payment} {s : Stage π}
    (h : x.Keeps (Step desk) Stored (Failed desk) s) :
    (x.run.bind fun result => .done (.payment result)).Keeps (Step desk) (Ends desk) s := by
  refine Paydesk.keeps_bind h.run fun s result hend => ?_
  cases result with
  | ok p =>
    obtain ⟨q, rfl, rfl⟩ := hend
    exact .payment
  | error e => exact .failure hend (.error e)

theorem keeps_report {x : Task γ π RefundOutcome} {s : Stage π} {payment : String}
    (h : x.Keeps (Step desk) (fun s outcome => Ends desk s (.refund outcome)) (Failed desk) s) :
    (x.run.bind fun
      | .ok outcome => .done outcome
      | .error e => .warn (.refundFailed e) (.done (.failure payment e.message))).Keeps (Step desk)
        (fun s outcome => Ends desk s (.refund outcome)) s := by
  refine Paydesk.keeps_bind h.run fun t result hend => ?_
  cases result with
  | ok outcome => exact hend
  | error e => exact ⟨t, .warn, .failure hend (.failure _ _)⟩

theorem keeps_outcome {w : Workflow γ π RefundOutcome} {s : Stage π}
    (h : w.Keeps (Step desk) (fun s outcome => Ends desk s (.refund outcome)) s) :
    (w.bind fun outcome => .done (.refund outcome)).Keeps (Step desk) (Ends desk) s :=
  Paydesk.keeps_bind h fun _ _ hend => hend

-- a use case that begins with a calculation must not be run to find its first step
section

attribute [local irreducible] Workflow.Keeps

theorem keeps_refund (r : RefundRequest) :
    (desk.refund r).Keeps (Step desk) (fun s outcome => Ends desk s (.refund outcome))
      (.idle (.refund r)) :=
  keeps_report desk (keeps_tryRefund desk r)

/-- Every call follows its course. -/
theorem keeps (u : UseCase) : (u.workflow desk).Keeps (Step desk) (Ends desk) (.idle u) := by
  cases u with
  | create tenant r => exact keeps_command desk (keeps_create desk tenant r)
  | startProcessing tenant id =>
    exact keeps_command desk
      (keeps_change desk (u := .startProcessing tenant id) rfl (fun _ => rfl) fun _ _ => rfl)
  | complete tenant id r =>
    exact keeps_command desk
      (keeps_change desk (u := .complete tenant id r) rfl (fun _ => rfl) fun _ _ => rfl)
  | fail tenant id r =>
    exact keeps_command desk
      (keeps_change desk (u := .fail tenant id r) rfl (fun _ => rfl) fun _ _ => rfl)
  | cancel tenant id r =>
    exact keeps_command desk
      (keeps_change desk (u := .cancel tenant id r) rfl (fun _ => rfl) fun _ _ => rfl)
  | refund r => exact keeps_outcome desk (keeps_refund desk r)

end

/-! ## The course of a call as the steps of a use case -/

/-- The part of a stage that the payments are about. -/
def Stage.view : Stage π → UseCase.Stage
  | .idle u => .idle u.target
  | .drafted _ _ => .idle none
  | .named _ _ id => .named id
  | .missed => .missed
  | .held _ p => .held p
  | .timed _ p _ => .held p
  | .answered _ p plan (.ok reply) => if reply.isApproved then .approved p plan else .held p
  | .answered _ p _ (.error _) => .held p
  | .granted _ p receipt _ => .approved p receipt.plan
  | .refused q why => .refused q why
  | .telling q receipt _ => .stored q (receipt.map Receipt.plan)

theorem Stage.view_saved (listeners : List π) (q : Payment) (receipt : Option Receipt)
    (version : Except Conflict Nat) :
    (Stage.saved listeners q receipt version).view =
      .saved q (receipt.map Receipt.plan) version := by
  cases version <;> rfl

theorem Step.view {desk : Desk γ π} {s t : Stage π} {a : Act γ π} (h : Step desk s a t) :
    UseCase.Step s.view a t.view := by
  cases h with
  | warn => exact .warn
  | draft _ => exact .clock
  | draw => exact .draw
  | create =>
    rw [Stage.view_saved]
    exact .create
  | miss htarget =>
    simp only [Stage.view, htarget]
    exact .miss
  | load htarget hquiet =>
    simp only [Stage.view, htarget]
    exact .load hquiet
  | time _ _ => exact .clock
  | change _ hgives =>
    rw [Stage.view_saved]
    exact .change hgives
  | @pay r p plan gateway reply _ hprepares =>
    obtain ⟨requested, -, hplan⟩ := hprepares.planned
    cases reply with
    | error e => exact .decline nofun
    | ok reply =>
      by_cases hgiven : reply.isApproved = true
      · simp only [Stage.view, hgiven, if_true]
        exact .approve (Payment.planRefund_again hplan) rfl rfl hgiven
      · simp only [Stage.view, hgiven]
        refine .decline fun answer hanswer => ?_
        cases hanswer
        simpa using hgiven
  | grant hgiven =>
    simp only [Stage.view, hgiven, if_true]
    exact .clock
  | refund hgives =>
    rw [Stage.view_saved]
    exact .refund hgives
  | offer => exact .offer

theorem Fails.view {desk : Desk γ π} {s : Stage π} (h : Fails desk s) : s.view.Free := by
  cases h with
  | @declined r p plan reply hdeclined =>
    cases reply with
    | error e => trivial
    | ok reply =>
      simp only [Stage.view, hdeclined reply rfl]
      trivial
  | _ => trivial

theorem Ends.view {desk : Desk γ π} {s : Stage π} {answer : Answer} (h : Ends desk s answer) :
    s.view.Fits answer := by
  cases h with
  | payment => exact .payment
  | refund => exact .refund
  | failure hfails hfailure =>
    cases hfailure with
    | error e => exact .error hfails.view
    | failure payment text => exact .failure hfails.view

end Course

theorem UseCase.keeps (desk : Desk γ π) (u : UseCase) :
    (u.workflow desk).Keeps UseCase.Step UseCase.Stage.Fits (.idle u.target) :=
  (Course.keeps desk u).map (fun _ _ _ hstep => hstep.view) fun _ _ hend => hend.view

end Paydesk
