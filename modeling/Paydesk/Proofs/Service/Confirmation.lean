import Paydesk.Proofs.Gateway.Remote
import Paydesk.Proofs.Service.Decision

/-!
# Only an explicit confirmation moves money

A refund that reaches a remote provider, with whatever the provider answers, for a call among any
others in any state that the store can come to, if nobody else writes the payment from the load on:
`confirmed_or_unchanged`.

1. What is told of a refund that was not approved is the reply of the gateway (`complained`). This
   needs a protocol of its own that keeps the first reply in mind (`FirstReply`), since the course
   of a call does not say with which words it fails.
2. What was stored by the call is still there at the end, and if the call has stored nothing, what it
   has loaded is (`exists_heeded`).
3. A remote provider approves what it confirms (`RemoteProvider.approves_reply`).
-/

namespace Paydesk

variable {ι γ π : Type}

/-! ## What is told of a refund -/

/-- The first reply of a gateway is kept in mind. -/
def FirstReply : Protocol γ π (Option (Except GatewayError RefundReply)) := fun s a t =>
  t = s.or (a.ordered.map fun order => order.2.2)

/-- What is told, after this reply of a gateway. -/
def Tells (s : Option (Except GatewayError RefundReply)) (error : Option String) : Prop :=
  ∀ reply ∈ s, ¬ Desk.Approves reply → error = some (Desk.complaint reply)

theorem tells_of_approves {reply : Except GatewayError RefundReply} (h : Desk.Approves reply)
    (error : Option String) : Tells (some reply) error := by
  rintro _ ⟨⟩ hnot
  exact absurd h hnot

theorem tells_complaint (reply : Except GatewayError RefundReply) :
    Tells (some reply) (some (Desk.complaint reply)) := by
  rintro _ ⟨⟩ -
  rfl

theorem keeps_load_firstReply (tenant : String) (id : PaymentId)
    {ok : Option (Except GatewayError RefundReply) → Payment → Prop} (hok : ∀ p, ok none p) :
    (Desk.load tenant id : Task γ π Payment).Keeps FirstReply ok
      (fun s e => Tells s (some e.message)) none := by
  refine Task.keeps_bind (Task.keeps_find fun found _ => ⟨none, rfl, ?_⟩)
  generalize found.filter (fun p => p.tenant == tenant) = own
  cases own with
  | none => exact Task.keeps_throw nofun
  | some p => exact Task.keeps_pure (hok p)

theorem keeps_tryRefund_firstReply (desk : Desk γ π) (r : RefundRequest) :
    (desk.tryRefund r).Keeps FirstReply (fun s outcome => Tells s outcome.error)
      (fun s e => Tells s (some e.message)) none := by
  refine Task.keeps_bind (Task.keeps_ofExcept (fun id _ => ?_) fun _ _ => nofun)
  refine Task.keeps_bind (keeps_load_firstReply r.tenant id fun p => ?_)
  refine Task.keeps_bind (Task.keeps_ofExcept (fun _ _ => ?_) fun _ _ => nofun)
  refine Task.keeps_bind (Task.keeps_ofExcept (fun requested _ => ?_) fun _ _ => nofun)
  refine Task.keeps_bind (Task.keeps_ofExcept (fun plan _ => ?_) fun _ _ => nofun)
  refine Task.keeps_bind (Task.keeps_ofExcept (fun gateway _ => ?_) fun _ _ => nofun)
  refine Task.keeps_bind (Task.keeps_pay (fun reply => ⟨some (.ok reply), rfl, ?_⟩)
    fun e => ⟨some (.error e), rfl, tells_complaint (.error e)⟩)
  by_cases happroved : reply.isApproved = true
  · -- from here on nothing has to be told
    have htells := tells_of_approves ⟨reply, rfl, happroved⟩
    refine ⟨Workflow.keeps_of_stays (fun _ => rfl) (fun result => ?_) _⟩
    cases result with
    | ok outcome => exact htells outcome.error
    | error e => exact htells (some e.message)
  · rw [if_neg happroved]
    exact Task.keeps_bind (Task.keeps_warn ⟨_, rfl, Task.keeps_pure (tells_complaint (.ok reply))⟩)

/-- What is told of a task that has failed is told of the refund. -/
theorem keeps_report_firstReply {x : Task γ π RefundOutcome} {payment : String}
    (h : x.Keeps FirstReply (fun s outcome => Tells s outcome.error)
      (fun s e => Tells s (some e.message)) none) :
    (x.run.bind fun
      | .ok outcome => .done outcome
      | .error e => .warn (.refundFailed e) (.done (.failure payment e.message))).Keeps FirstReply
        (fun s outcome => Tells s outcome.error) none := by
  refine keeps_bind h.run fun s result hend => ?_
  cases result with
  | ok outcome => exact hend
  | error e => exact ⟨s, Option.or_none.symm, hend⟩

/-- What is kept in mind after some steps is the reply to the first order among them. -/
theorem firstReply_of_trail {s t : Option (Except GatewayError RefundReply)}
    {acts : List (Act γ π)} (h : Trail FirstReply s acts t) :
    t = s.or ((acts.filterMap Act.ordered).getLast?.map fun order => order.2.2) := by
  induction h with
  | nil => exact Option.or_none.symm
  | @step acts t u a _ hpermitted ih =>
    have hu : u = t.or (a.ordered.map fun order => order.2.2) := hpermitted
    rw [hu, ih]
    cases hordered : a.ordered with
    | none =>
      rw [List.filterMap_cons_none hordered]
      exact Option.or_none
    | some order =>
      rw [List.filterMap_cons_some hordered, List.getLast?_cons]
      cases hlast : (acts.filterMap Act.ordered).getLast? <;> simp

variable [DecidableEq ι]

section

-- neither the call nor the protocol is to be run to see that the two belong together
attribute [local irreducible] Workflow.Keeps

theorem keeps_refund_firstReply (desk : Desk γ π) (r : RefundRequest) :
    (desk.refund r).Keeps FirstReply (fun s outcome => Tells s outcome.error) none :=
  keeps_report_firstReply (keeps_tryRefund_firstReply desk r)

theorem complained {desk : Desk γ π} {start : ι → Workflow γ π (Option Answer)} {i : ι}
    {r : RefundRequest} (hstart : start i = (Party.useCase (.refund r)).workflow desk)
    {moves : List (Move ι)} {outcome : RefundOutcome}
    (hdone : (Floor.play start moves).running i = .done (some (.refund outcome))) {gateway : γ}
    {order : RefundOrder} {reply : Except GatewayError RefundReply}
    (hpaid : Act.pay gateway order reply ∈ stepsOf i (Floor.play start moves).log)
    (hone : ((stepsOf i (Floor.play start moves).log).filterMap Act.ordered).length ≤ 1)
    (hnot : ¬ Desk.Approves reply) : outcome.error = some (Desk.complaint reply) := by
  have hkeeps : (start i).Keeps FirstReply (fun s result =>
      ∃ answer, result = some answer ∧ ∃ outcome, answer = .refund outcome ∧ Tells s outcome.error)
      none := by
    rw [hstart]
    refine keeps_bind (keeps_bind (keeps_refund_firstReply desk r) fun s outcome htells => ?_)
      fun _ answer hanswer => Workflow.keeps_done.2 ⟨answer, rfl, hanswer⟩
    exact Workflow.keeps_done.2 ⟨outcome, rfl, htells⟩
  obtain ⟨t, htrail, hend⟩ := exists_trail_play start hkeeps moves
  obtain ⟨_, ⟨⟩, _, ⟨⟩, htells⟩ := hend.of_done hdone
  refine htells reply ?_ hnot
  have hmem : (gateway, order, reply) ∈
      (stepsOf i (Floor.play start moves).log).filterMap Act.ordered :=
    List.mem_filterMap.2 ⟨_, hpaid, rfl⟩
  obtain ⟨only, honly⟩ := List.length_eq_one_iff.1 (le_antisymm hone (List.length_pos_of_mem hmem))
  rw [honly, List.mem_singleton] at hmem
  rw [firstReply_of_trail htrail, honly, ← hmem]
  rfl

end

/-! ## A payment that nobody else writes from its load on -/

/-- Since a call has loaded a payment nobody else has written it or taken it out. -/
def Unrivalled (i : ι) (log : List (Entry ι γ π)) : Prop :=
  ∀ later earlier id found, log = later ++ .act i (.find id found) :: earlier →
    ∀ e ∈ later, e.Touches id → e.IsBy i

theorem unrivalled_of_alone {α : Type} {start : ι → Workflow γ π α} {first own : List (Move ι)}
    {i : ι} (hfirst : ∀ x, .step i x ∉ first) (hown : ∀ m ∈ own, ∃ x, m = .step i x) :
    Unrivalled i (Floor.play start (first ++ own)).log := fun _ _ _ _ hlog e he _ =>
  isBy_of_alone hfirst hown hlog e he

theorem mem_log_of_mem_ordered {i : ι} {log : List (Entry ι γ π)} {gateway : γ}
    {order : RefundOrder} {reply : Except GatewayError RefundReply}
    (h : (gateway, order, reply) ∈ (stepsOf i log).filterMap Act.ordered) :
    Entry.act i (.pay gateway order reply) ∈ log := by
  obtain ⟨a, ha, hordered⟩ := List.mem_filterMap.1 h
  cases a with
  | pay _ _ _ =>
    cases hordered
    exact mem_stepsOf.1 ha
  | _ => cases hordered

/-- A gateway replies what the world outside says at that moment. -/
theorem exists_step_of_pay {α : Type} {start : ι → Workflow γ π α} {moves : List (Move ι)} {i : ι}
    {gateway : γ} {order : RefundOrder} {reply : Except GatewayError RefundReply}
    (h : Entry.act i (.pay gateway order reply) ∈ (Floor.play start moves).log) :
    ∃ x, .step i x ∈ moves ∧ reply = x.reply := by
  obtain ⟨later, earlier, hlog⟩ := List.append_of_mem h
  obtain ⟨first, x, rest, rfl, -, s, w, hadvance⟩ := exists_move_of_log hlog
  refine ⟨x, by simp, ?_⟩
  generalize (Floor.play start first).running i = running at hadvance
  generalize (Floor.play start first).store = store at hadvance
  cases running with
  | pay _ _ _ =>
    cases hadvance
    rfl
  | save p _ =>
    cases hversion : store.nextVersion p with
    | ok version =>
      rw [advance_save_ok hversion] at hadvance
      cases hadvance
    | error why =>
      rw [advance_save_error hversion] at hadvance
      cases hadvance
  | _ => cases hadvance

section

variable {desk : Desk γ π} {r : RefundRequest} {i : ι} {log later earlier : List (Entry ι γ π)}
  {t : Course.Stage π} {outcome : RefundOutcome}

omit [DecidableEq ι] in
theorem Unrivalled.undisturbed (h : Unrivalled i log) : Undisturbed i log := by
  intro later between earlier q version id found hlog e he
  exact h (later ++ .act i (.save q version) :: between) earlier id found (by simp [hlog]) e
    (by simp [he])

/-- What a refund has saved stays as it is. -/
theorem untouched_since_save
    (htrail : Trail (Course.Step desk) (.idle (.refund r)) (stepsOf i log) t)
    (hunrivalled : Unrivalled i log) {q : Payment} {version : Except Conflict Nat}
    (hlog : log = later ++ .act i (.save q version) :: earlier) :
    ∀ e ∈ later, ¬ e.Touches q.id := by
  intro e he htouches
  have hacts : stepsOf i log = stepsOf i later ++ .save q version :: stepsOf i earlier := by
    rw [hlog, stepsOf_append, stepsOf_act_self]
  rw [hacts] at htrail
  obtain ⟨receipt, hsaves, -⟩ := Course.saves_of_trail htrail
  obtain ⟨p, given, now, -, ⟨reply, hordered, -⟩, hgives⟩ := hsaves.refund_cases
  have hid : q.id = p.id := hgives.sameIdentity.id
  obtain ⟨between, before, hearlier⟩ := List.append_of_mem (mem_stepsOf.1 hordered.loaded.found)
  have hby : e.IsBy i :=
    hunrivalled (later ++ .act i (.save q version) :: between) before p.id (some p)
      (by simp [hlog, hearlier]) e (by simp [he]) (hid ▸ htouches)
  -- so it would be a second save of the call
  obtain ⟨q', version', rfl⟩ := hby.save_of_touches htouches
  obtain ⟨newest, newer, hlater⟩ := List.append_of_mem (mem_stepsOf.2 he)
  rw [hlater, List.append_assoc, List.cons_append] at htrail
  exact Course.not_mem_save htrail (List.mem_append_right _ List.mem_cons_self)

/-- What a refund has loaded stays as it is, if the refund has stored nothing. -/
theorem unchanged_of_unstored
    (hfits : ∀ later earlier a, log = later ++ .act i a :: earlier → a.Fits (replay earlier))
    (hunrivalled : Unrivalled i log) {p : Payment}
    (hfound : Act.find p.id (some p) ∈ stepsOf i log)
    (hunstored : (stepsOf i log).filterMap Act.stored = []) :
    (replay log).find? p.id = some p := by
  obtain ⟨later, earlier, hlog⟩ := List.append_of_mem (mem_stepsOf.1 hfound)
  have hstored : some p = (replay earlier).find? p.id := hfits later earlier _ hlog
  have hkept : ∀ e ∈ later, ¬ e.Touches p.id := by
    intro e he htouches
    have hby := hunrivalled later earlier p.id (some p) hlog e he htouches
    obtain ⟨q, version, rfl⟩ := hby.save_of_touches htouches
    have hsaved : Act.save q (.ok version) ∈ stepsOf i log := mem_stepsOf.2 (by simp [hlog, he])
    have hmem : q.withVersion version ∈ (stepsOf i log).filterMap Act.stored :=
      List.mem_filterMap.2 ⟨_, hsaved, rfl⟩
    rw [hunstored] at hmem
    exact List.not_mem_nil hmem
  rw [hlog, find?_replay_append hkept, replay_of_unwritten rfl, hstored]

/-- What the service has made of the reply of a gateway. -/
structure Heeded (r : RefundRequest) (order : RefundOrder)
    (reply : Except GatewayError RefundReply) (s : Store) (outcome : RefundOutcome) (p : Payment) :
    Prop where
  payment : order.payment = p.id
  /-- The refund is applied to what was loaded, and stored under the next version. -/
  applied : Desk.Approves reply → ∃ now plan q raw,
    p.refund now (some order.amount) r.reason = .ok (plan, q) ∧
    s.find? p.id = some (q.withVersion (p.version + 1)).commitEvents ∧
    outcome = .success p.id q.status order.amount plan.isPartial raw
  unchanged : ¬ Desk.Approves reply →
    s.find? p.id = some p ∧ ∃ payment text, outcome = .failure payment text

theorem exists_heeded
    (htrail : Trail (Course.Step desk) (.idle (.refund r)) (stepsOf i log) t)
    (hend : Course.Ends desk t (.refund outcome))
    (hfits : ∀ later earlier a, log = later ++ .act i a :: earlier → a.Fits (replay earlier))
    (hunrivalled : Unrivalled i log) {gateway : γ} {order : RefundOrder}
    {reply : Except GatewayError RefundReply} (hpaid : .pay gateway order reply ∈ stepsOf i log) :
    ∃ p, Act.find p.id (some p) ∈ stepsOf i log ∧ Heeded r order reply (replay log) outcome p := by
  obtain ⟨p, plan, hloaded, -, -, rfl⟩ := Course.ordered_of_pay htrail hpaid
  -- there is one order of the call, and one payment that it has loaded
  have hsame : ∀ {p' : Payment} {plan' : Payment.RefundPlan}
      {reply' : Except GatewayError RefundReply},
      Course.Ordered desk r (stepsOf i log) p' plan' reply' →
        p' = p ∧ r.order p' plan' = r.order p plan ∧ reply' = reply := by
    intro p' plan' reply' hordered
    obtain ⟨gateway', -, hpaid'⟩ := hordered.paid
    have hone := eq_of_length_filterMap_le_one (Course.orders_le_one htrail).1 hpaid' hpaid rfl rfl
    have hfound := eq_of_length_filterMap_le_one (Course.lookups_le_one htrail)
      hordered.loaded.found hloaded.found rfl rfl
    exact ⟨Option.some.inj (Prod.mk.inj hfound).2, Prod.mk.inj (Prod.mk.inj hone).2⟩
  refine ⟨p, hloaded.found, rfl, ?_, fun hnot => ?_⟩
  · rintro ⟨answer, rfl, happroved⟩
    obtain ⟨p', plan', now, q, later, earlier, hordered, hrefund, hlog, houtcome⟩ :=
      applied_of_approved htrail hend hfits hunrivalled.undisturbed hpaid happroved
    obtain ⟨rfl, horder, -⟩ := hsame hordered
    have hamount : plan'.amount = plan.amount := congrArg RefundOrder.amount horder
    have hid : q.id = p'.id := Payment.refund_id hrefund
    have hkept := untouched_since_save htrail hunrivalled hlog
    rw [hamount] at hrefund houtcome
    refine ⟨now, plan', q, answer.raw, hrefund, ?_, houtcome⟩
    rw [hlog, find?_replay_append (hid ▸ hkept), find?_replay_save, if_pos hid]
  · rcases hend.outcome with ⟨q, receipt, rfl, -⟩ | ⟨hfails, payment, text, rfl⟩
    · obtain ⟨q', version, -, hsaved⟩ := Course.backed_of_trail htrail
      obtain ⟨newer, older, p', given, now, hacts, ⟨answer, hordered, happroved, -⟩, -⟩ :=
        Course.granted_of_save htrail hsaved
      obtain ⟨-, -, rfl⟩ := hsame (hordered.mono (by simp [hacts]))
      exact absurd ⟨answer, rfl, happroved⟩ hnot
    · have hunstored := (Course.stored_of_trail htrail).trans hfails.stored
      exact ⟨unchanged_of_unstored hfits hunrivalled hloaded.found hunstored, payment, text, rfl⟩

end

/-! ## Remote providers -/

/-- **Only an explicit confirmation moves money.** Calls of the service and writers share a store
from which payments are taken out, in any order of their steps; some of the gateways are remote
providers. A refund among the calls comes to an answer. If it has reached a remote provider, and
nobody else has written its payment since it was loaded, then the refund is applied to the stored
payment exactly if the provider has answered with a code of success and an object in which `success`
is true. However else the request to the provider has ended, the answer says that the refund failed,
the stored payment is the one that was loaded, and what is told is the provider's complaint. -/
theorem confirmed_or_unchanged (desk : Desk (RemoteProvider ⊕ γ) π) (parties : ι → Party) (i : ι)
    (r : RefundRequest) (moves : List (Move ι)) (hi : parties i = .useCase (.refund r)) :
    let start := fun j => (parties j).workflow desk
    let floor := Floor.play start moves
    (∀ x, ∃ n outcome, (Floor.play start (moves ++ List.replicate n (.step i x))).running i =
      .done (some (.refund outcome))) ∧
    ∀ provider order exchange outcome,
      Entry.act i (.pay (.inl provider) order (RemoteProvider.reply exchange)) ∈ floor.log →
      floor.running i = .done (some (.refund outcome)) → Unrivalled i floor.log →
      ∃ p, Entry.act i (.find p.id (some p)) ∈ floor.log ∧ order.payment = p.id ∧
        ((∃ now plan q, p.refund now (some order.amount) r.reason = .ok (plan, q) ∧
          floor.store.find? p.id = some (q.withVersion (p.version + 1)).commitEvents) ↔
            exchange.Confirms) ∧
        (outcome.isSuccess = true ↔ exchange.Confirms) ∧
        (¬ exchange.Confirms → floor.store.find? p.id = some p ∧ outcome.status = .failed ∧
          ∃ text, outcome.error = some text ∧ exchange.Complains text) := by
  intro start floor
  have hstart : start i = (Party.useCase (.refund r)).workflow desk :=
    congrArg (fun party => party.workflow desk) hi
  refine ⟨exists_answer hstart moves, fun provider order exchange outcome hmem hdone hunrivalled =>
    ?_⟩
  obtain ⟨t, htrail, hend⟩ := exists_ended hstart hdone
  have hpaid : Act.pay (.inl provider) order (RemoteProvider.reply exchange) ∈
      stepsOf i floor.log := mem_stepsOf.2 hmem
  obtain ⟨p, hfound, hheeded⟩ := exists_heeded htrail hend
    (fun _ _ _ hlog => fits_of_log hlog) hunrivalled hpaid
  have hstore : floor.store = replay floor.log := store_play start moves
  rw [← hstore] at hheeded
  have happrove := RemoteProvider.approves_reply (x := exchange)
  refine ⟨p, mem_stepsOf.1 hfound, hheeded.payment, ⟨?_, fun hconfirms => ?_⟩,
    ⟨fun hsuccess => ?_, fun hconfirms => ?_⟩, fun hnot => ?_⟩
  · rintro ⟨now, plan, q, -, hstored⟩
    by_contra hnot
    -- what was loaded is not under the next version
    rw [(hheeded.unchanged (happrove.not.2 hnot)).1] at hstored
    have hversion : p.version = p.version + 1 :=
      congrArg (fun p : Payment => p.version) (Option.some.inj hstored)
    exact absurd hversion (Nat.ne_of_lt p.version.lt_succ_self)
  · obtain ⟨now, plan, q, -, hrefund, hstored, -⟩ := hheeded.applied (happrove.2 hconfirms)
    exact ⟨now, plan, q, hrefund, hstored⟩
  · by_contra hnot
    obtain ⟨-, payment, text, rfl⟩ := hheeded.unchanged (happrove.not.2 hnot)
    cases hsuccess
  · obtain ⟨now, plan, q, raw, -, -, rfl⟩ := hheeded.applied (happrove.2 hconfirms)
    rfl
  · have hdeclined := happrove.not.2 hnot
    obtain ⟨hsame, payment, text, houtcome⟩ := hheeded.unchanged hdeclined
    have htold := complained hstart hdone hpaid (Course.orders_le_one htrail).1 hdeclined
    exact ⟨hsame, by rw [houtcome]; rfl, _, htold, RemoteProvider.complains_reply hnot⟩

/-- A desk with one remote provider. -/
def Desk.remote : Desk (RemoteProvider ⊕ Unit) Empty where
  registry := Registry.empty.register ⟨.paypal, some (.inl (.ofUrl .paypal "http://paypal/" none))⟩
  listeners := []
  publishTimeoutMillis := 0

/-- An answer that confirms, though not with the usual code. -/
def Exchange.created : Exchange :=
  .answered 201 "\x7b\"success\": true, \"error\": \"none\"\x7d"

open scoped Trial

/-- A payment is made, started, completed and refunded, and the refund is confirmed. -/
theorem confirmed_or_unchanged_created :
    let outside : Outside := ⟨default, .first, RemoteProvider.reply .created, .accepted⟩
    let moves := [0, 0, 0, 1, 1, 1, 2, 2, 2].map (fun j => Move.step j outside) ++
      List.replicate 4 (.step 3 outside)
    let start := fun j => (Party.sequence j).workflow Desk.remote
    ∃ outcome p now amount plan q,
      (Floor.play start moves).running 3 = .done (some (.refund outcome)) ∧
      Entry.act 3 (.find p.id (some p)) ∈ (Floor.play start moves).log ∧
      outcome.isSuccess = true ∧ p.refund now (some amount) none = .ok (plan, q) ∧
      (Floor.play start moves).store.find? p.id =
        some (q.withVersion (p.version + 1)).commitEvents := by
  intro outside moves start
  have hends : ((Floor.play start moves).running 3).isDone = true := by decide +kernel
  have hasked : ((stepsOf 3 (Floor.play start moves).log).filterMap Act.ordered).any
      (fun order => order.1.isLeft) = true := by decide +kernel
  have hconfirms : Exchange.created.Confirms :=
    ⟨Exchange.succeeds_answered.2 rfl, RemoteProvider.hasMember_bool.2 (by decide +kernel)⟩
  have hfirst : ∀ x, Move.step 3 x ∉
      [0, 0, 0, 1, 1, 1, 2, 2, 2].map (fun j : Fin 4 => Move.step j outside) := by simp
  have hunrivalled : Unrivalled 3 (Floor.play start moves).log :=
    unrivalled_of_alone hfirst fun m hm => ⟨outside, List.eq_of_mem_replicate hm⟩
  have hrefund : start 3 = (Party.useCase
      (.refund ⟨PaymentId.first.toText, "shop", none, none⟩)).workflow Desk.remote := rfl
  obtain ⟨result, hdone⟩ := Workflow.eq_done_of_isDone hends
  obtain ⟨outcome, rfl⟩ := exists_outcome hrefund hdone
  obtain ⟨⟨gateway, order, reply⟩, hmem, hleft⟩ := List.any_eq_true.1 hasked
  obtain ⟨provider, rfl⟩ := Sum.isLeft_iff.1 hleft
  have hpaid := mem_log_of_mem_ordered hmem
  obtain ⟨x, hmove, rfl⟩ := exists_step_of_pay hpaid
  obtain rfl : x = outside := by simpa [moves] using hmove
  have hsettled := (confirmed_or_unchanged Desk.remote Party.sequence 3
    ⟨PaymentId.first.toText, "shop", none, none⟩ moves rfl).2 provider order .created outcome
  have hstart : (fun j => (Party.sequence j).workflow Desk.remote) = start := rfl
  rw [hstart] at hsettled
  obtain ⟨p, hfound, -, happlied, hsuccess, -⟩ := hsettled hpaid hdone hunrivalled
  obtain ⟨now, plan, q, hrefund, hstored⟩ := happlied.2 hconfirms
  exact ⟨outcome, p, now, order.amount, plan, q, hdone, hfound, hsuccess.2 hconfirms, hrefund,
    hstored⟩

end Paydesk
