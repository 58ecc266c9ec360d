import Paydesk.Proofs.Service.Atomic
import Paydesk.Proofs.Service.Custody

/-!
# The decision of a refund

When a refund is ordered, what the order says, and what comes of it, for a call among any others in
any state that the store can come to, if nobody else writes the payment between the load and the
save: `refund_decided`.

1. Whether a refund can be prepared is a condition on the stored payment, the request and the
   registry (`Desk.Accepts`); that the balance is not used up follows from the books of what is stored.
2. A call that was prepared orders, and one that has ordered was prepared (`accepts_of_pay`,
   `exists_pay`).
3. After an approval nothing fails any more: what was planned can be paid back, and the save gets the
   version after the one that was loaded (`version_of_undisturbed`).
-/

namespace Paydesk

variable {ι γ π : Type}

/-! ## What a refund asks for -/

/-- What can still be paid back, in cents. -/
def Payment.leftCents (p : Payment) : Nat :=
  p.amount.cents - p.refundedCents

/-- The amount that a request asks to have paid back, by default the whole balance. -/
def RefundRequest.Asks (r : RefundRequest) (p : Payment) (amount : Amount) : Prop :=
  match r.amount with
  | some x => Amount.ofBinary64 x = .ok amount
  | none => p.refundable = some amount

/-- A stored payment can be refunded as a request asks, through this gateway. -/
structure Desk.Accepts (desk : Desk γ π) (s : Store) (r : RefundRequest) (p : Payment)
    (gateway : γ) : Prop where
  named : PaymentId.read r.payment = .ok p.id
  stored : s.find? p.id = some p
  own : p.tenant = r.tenant
  status : p.status = .completed ∨ p.status = .partiallyRefunded
  amount : ∀ x, r.amount = some x → ∃ amount, Amount.ofBinary64 x = .ok amount ∧
    amount.cents ≤ p.leftCents ∧ (p.status = .partiallyRefunded → amount.cents = p.leftCents)
  routed : ∃ client, desk.registry.resolve p.tenant p.provider = .ok client ∧
    client.gateway = some gateway

theorem Desk.requestedAmount_eq_ok {amount : Option Binary64} {requested : Option Amount} :
    Desk.requestedAmount amount = .ok requested ↔
      match amount with
      | none => requested = none
      | some x => ∃ a, Amount.ofBinary64 x = .ok a ∧ requested = some a := by
  cases amount with
  | none => exact ⟨fun h => (Except.ok.inj h).symm, fun h => h ▸ rfl⟩
  | some x =>
    show (checked (Amount.ofBinary64 x)).map some = .ok requested ↔
      ∃ a, Amount.ofBinary64 x = .ok a ∧ requested = some a
    generalize Amount.ofBinary64 x = given
    cases given with
    | error why => simp [checked, Except.map]
    | ok a => simp [checked, Except.map, eq_comm]

theorem Desk.gateway_eq_ok {desk : Desk γ π} {p : Payment} {gateway : γ} :
    desk.gateway p = .ok gateway ↔ ∃ client,
      desk.registry.resolve p.tenant p.provider = .ok client ∧ client.gateway = some gateway := by
  unfold Desk.gateway
  cases desk.registry.resolve p.tenant p.provider with
  | error e => simp [bind, Except.bind]
  | ok client =>
    cases hgateway : client.gateway <;> simp [bind, Except.bind, hgateway, pure, Except.pure]

/-- Who accepts a refund can prepare it, if something is left to be paid back. -/
theorem Desk.Accepts.prepares {desk : Desk γ π} {s : Store} {r : RefundRequest} {p : Payment}
    {gateway : γ} (h : desk.Accepts s r p gateway) (hleft : p.refundedCents < p.amount.cents) :
    ∃ plan, desk.Prepares r p plan gateway := by
  have hrouted := Desk.gateway_eq_ok.2 h.routed
  cases hamount : r.amount with
  | none =>
    obtain ⟨plan, hplan⟩ := Payment.exists_planRefund none h.status hleft nofun nofun
    exact ⟨plan, ⟨none, by rw [hamount]; rfl, hplan⟩, hrouted⟩
  | some x =>
    obtain ⟨a, ha, hwithin, hsettles⟩ := h.amount x hamount
    unfold Payment.leftCents at hwithin hsettles
    obtain ⟨plan, hplan⟩ := Payment.exists_planRefund (some a) h.status hleft
      (fun b hb => by cases hb; omega) fun hpartially b hb => by
        cases hb
        have := hsettles hpartially
        omega
    exact ⟨plan, ⟨some a, Desk.requestedAmount_eq_ok.2 (by rw [hamount]; exact ⟨a, ha, rfl⟩), hplan⟩,
      hrouted⟩

/-- What was prepared is what the request asks for. -/
theorem Desk.Prepares.asks {desk : Desk γ π} {r : RefundRequest} {p : Payment}
    {plan : Payment.RefundPlan} {gateway : γ} (h : desk.Prepares r p plan gateway) :
    r.Asks p plan.amount := by
  obtain ⟨requested, hrequested, hplan⟩ := h.planned
  obtain ⟨balance, hbalance, hamount, -⟩ := Payment.planRefund_ok hplan
  rw [Desk.requestedAmount_eq_ok] at hrequested
  unfold RefundRequest.Asks
  split <;> rename_i heq <;> rw [heq] at hrequested
  · obtain ⟨a, ha, rfl⟩ := hrequested
    rw [hamount]
    exact ha
  · obtain rfl : requested = none := hrequested
    rw [hamount]
    exact hbalance

theorem Desk.Prepares.accepts {desk : Desk γ π} {s : Store} {r : RefundRequest} {p : Payment}
    {plan : Payment.RefundPlan} {gateway : γ} (h : desk.Prepares r p plan gateway)
    (hnamed : PaymentId.read r.payment = .ok p.id) (hstored : s.find? p.id = some p)
    (hown : p.tenant = r.tenant) : desk.Accepts s r p gateway := by
  have hasks := h.asks
  obtain ⟨requested, -, hplan⟩ := h.planned
  obtain ⟨hle, hpartial⟩ := Payment.planRefund_cents hplan
  refine ⟨hnamed, hstored, hown, ?_, fun x hx => ⟨plan.amount, ?_, ?_, fun hpartially => ?_⟩,
    Desk.gateway_eq_ok.1 h.routed⟩
  · rcases Payment.planRefund_status hplan with ⟨hcompleted, -⟩ | ⟨hstatus, -⟩
    · exact .inl hcompleted
    · exact hstatus
  · unfold RefundRequest.Asks at hasks
    rwa [hx] at hasks
  · unfold Payment.leftCents
    omega
  · rcases Payment.planRefund_status hplan with ⟨hcompleted, -⟩ | ⟨-, hfull, -⟩
    · rw [hpartially] at hcompleted
      cases hcompleted
    · have hnot := hpartial.not.1 (by simp [hfull])
      unfold Payment.leftCents
      omega

/-! ## What a refund has done -/

namespace Course

variable {desk : Desk γ π} {r : RefundRequest} {acts older newer : List (Act γ π)} {t : Stage π}

/-- Every order is one that was prepared. -/
theorem ordered_of_pay (h : Trail (Step desk) (.idle (.refund r)) acts t) {gateway : γ}
    {order : RefundOrder} {reply : Except GatewayError RefundReply}
    (hmem : .pay gateway order reply ∈ acts) :
    ∃ p plan, Loaded (.refund r) acts p ∧ p.tenant = r.tenant ∧ desk.Prepares r p plan gateway ∧
      order = r.order p plan := by
  obtain ⟨newer, older, rfl⟩ := List.append_of_mem hmem
  obtain ⟨s, s', holder, hpay, -⟩ := h.of_append_cons
  have hbacked := backed_of_trail holder
  cases hpay with
  | pay hown hprepares =>
    obtain ⟨hcall, hloaded⟩ := hbacked
    cases hcall
    exact ⟨_, _, hloaded.mono (by simp), hown, hprepares, rfl⟩

theorem Saves.refund_cases {q : Payment} {receipt : Option Receipt}
    (h : Saves desk (.refund r) older q receipt) :
    ∃ p given now, receipt = some given ∧ Granted desk r older p given ∧
      Payment.Call.Gives p (.refund now (some given.plan.amount) r.reason) q (some given.plan) := by
  cases h with
  | create hcall _ _ _ _ => cases hcall
  | change _ _ _ hcommand _ => cases hcommand
  | refund hcall hgranted _ hgives =>
    cases hcall
    exact ⟨_, _, _, rfl, hgranted, hgives⟩

/-- What stands behind a save of a refund. -/
theorem granted_of_save (h : Trail (Step desk) (.idle (.refund r)) acts t) {q : Payment}
    {version : Except Conflict Nat} (hmem : .save q version ∈ acts) :
    ∃ newer older p given now, acts = newer ++ .save q version :: older ∧
      Granted desk r older p given ∧
      Payment.Call.Gives p (.refund now (some given.plan.amount) r.reason) q (some given.plan) ∧
      Trail (Step desk) (.saved desk.listeners q (some given) version) newer t := by
  obtain ⟨newer, older, rfl⟩ := List.append_of_mem hmem
  obtain ⟨receipt, hsaves, hnewer⟩ := saves_of_trail h
  obtain ⟨p, given, now, rfl, hgranted, hgives⟩ := hsaves.refund_cases
  exact ⟨newer, older, p, given, now, rfl, hgranted, hgives, hnewer⟩

/-- How far a refund has come when it answers: its payment is not named, not found, or not to be
refunded so; or the refund was ordered. -/
theorem Ends.refund_cases (h : Trail (Step desk) (.idle (.refund r)) acts t) {answer : Answer}
    (hend : Ends desk t answer) :
    (∃ why, PaymentId.read r.payment = .error why) ∨ (∃ id, .find id none ∈ acts) ∨
      (∃ p, Loaded (.refund r) acts p ∧
        (p.tenant ≠ r.tenant ∨ ∀ plan gateway, ¬ desk.Prepares r p plan gateway)) ∨
      ∃ p plan reply, Ordered desk r acts p plan reply := by
  have hsaved : ∀ {q : Payment} {version : Except Conflict Nat}, .save q version ∈ acts →
      ∃ p plan reply, Ordered desk r acts p plan reply := by
    intro q version hmem
    obtain ⟨newer, older, p, given, now, rfl, ⟨reply, hordered, -⟩, -⟩ := granted_of_save h hmem
    exact ⟨p, given.plan, .ok reply, hordered.mono (by simp)⟩
  have hbacked := backed_of_trail h
  cases hend with
  | payment =>
    obtain ⟨p, version, -, hmem⟩ := hbacked
    exact .inr (.inr (.inr (hsaved hmem)))
  | refund =>
    obtain ⟨p, version, -, hmem⟩ := hbacked
    exact .inr (.inr (.inr (hsaved hmem)))
  | failure hfails _ =>
    cases hfails with
    | invalid _ => cases hbacked
    | unnamed hunnamed =>
      cases hbacked
      exact .inl ⟨_, hunnamed⟩
    | missed =>
      obtain ⟨id, -, hmem⟩ := hbacked
      exact .inr (.inl ⟨id, hmem⟩)
    | foreign hforeign =>
      obtain ⟨rfl, hloaded⟩ := hbacked
      exact .inr (.inr (.inl ⟨_, hloaded, .inl hforeign⟩))
    | unprepared hunprepared =>
      obtain ⟨hcall, hloaded⟩ := hbacked
      cases hcall
      exact .inr (.inr (.inl ⟨_, hloaded, .inr hunprepared⟩))
    | forbidden hcommand _ =>
      obtain ⟨rfl, -⟩ := hbacked
      cases hcommand
    | declined _ =>
      obtain ⟨hcall, hordered⟩ := hbacked
      cases hcall
      exact .inr (.inr (.inr ⟨_, _, _, hordered⟩))
    | conflict => exact .inr (.inr (.inr (hsaved hbacked)))

theorem Ends.outcome {outcome : RefundOutcome} (h : Ends desk t (.refund outcome)) :
    (∃ q receipt, t = .telling q (some receipt) [] ∧
      outcome = .success q.id q.status receipt.plan.amount receipt.plan.isPartial receipt.raw) ∨
      Fails desk t ∧ ∃ payment text, outcome = .failure payment text := by
  generalize hanswer : Answer.refund outcome = answer at h
  cases h with
  | payment => cases hanswer
  | refund =>
    injection hanswer with houtcome
    exact .inl ⟨_, _, rfl, houtcome⟩
  | failure hfails hfailure =>
    cases hfailure with
    | error e => cases hanswer
    | failure payment text =>
      injection hanswer with houtcome
      exact .inr ⟨hfails, payment, text, houtcome⟩

theorem target_eq_some {id : PaymentId} :
    (UseCase.refund r).target = some id ↔ PaymentId.read r.payment = .ok id := by
  show (PaymentId.read r.payment).toOption = some id ↔ _
  generalize PaymentId.read r.payment = named
  cases named <;> simp [Except.toOption]

theorem exists_lookup (h : Trail (Step desk) (.idle (.refund r)) acts t) {answer : Answer}
    (hend : Ends desk t answer) {id : PaymentId} (hread : PaymentId.read r.payment = .ok id) :
    ∃ found, .find id found ∈ acts := by
  have hfound : ∃ id' found, .find id' found ∈ acts := by
    rcases hend.refund_cases h with ⟨why, hwhy⟩ | ⟨id', hmem⟩ | ⟨p, hloaded, -⟩ | ⟨p, _, _, hordered⟩
    · rw [hread] at hwhy
      cases hwhy
    · exact ⟨_, _, hmem⟩
    · exact ⟨_, _, hloaded.found⟩
    · exact ⟨_, _, hordered.loaded.found⟩
  obtain ⟨id', found, hmem⟩ := hfound
  obtain rfl := Option.some.inj ((target_of_find h hmem).symm.trans (target_eq_some.2 hread))
  exact ⟨found, hmem⟩

/-- A refund that could be prepared has ordered when it answers. -/
theorem exists_pay (h : Trail (Step desk) (.idle (.refund r)) acts t) {answer : Answer}
    (hend : Ends desk t answer) {p : Payment} {plan : Payment.RefundPlan} {gateway : γ}
    (hfound : .find p.id (some p) ∈ acts) (hown : p.tenant = r.tenant)
    (hprepares : desk.Prepares r p plan gateway) : ∃ order reply, .pay gateway order reply ∈ acts := by
  have hsame : ∀ {id : PaymentId} {found : Option Payment}, .find id found ∈ acts →
      (id, found) = (p.id, some p) := fun hmem =>
    eq_of_length_filterMap_le_one (lookups_le_one h) hmem hfound rfl rfl
  rcases hend.refund_cases h with ⟨why, hwhy⟩ | ⟨id, hmem⟩ | ⟨p', hloaded, hdenied⟩ |
    ⟨p', plan', reply, hordered⟩
  · rw [target_eq_some.1 (target_of_find h hfound)] at hwhy
    cases hwhy
  · cases (Prod.mk.inj (hsame hmem)).2
  · obtain rfl := Option.some.inj (Prod.mk.inj (hsame hloaded.found)).2
    rcases hdenied with hforeign | hunprepared
    · exact absurd hown hforeign
    · exact absurd hprepares (hunprepared plan gateway)
  · obtain rfl := Option.some.inj (Prod.mk.inj (hsame hordered.loaded.found)).2
    obtain ⟨gateway', hprepares', hmem⟩ := hordered.paid
    obtain rfl := Except.ok.inj (hprepares.routed.symm.trans hprepares'.routed)
    exact ⟨_, _, hmem⟩

end Course

variable [DecidableEq ι]

/-! ## A payment that nobody else writes -/

/-- Between the load of a use case and its save nobody else has written the payment or taken it
out. -/
def Undisturbed (i : ι) (log : List (Entry ι γ π)) : Prop :=
  ∀ later between earlier q version id found,
    log = later ++ .act i (.save q version) :: (between ++ .act i (.find id found) :: earlier) →
      ∀ e ∈ between, e.Touches id → e.IsBy i

/-- All that is logged after a step of a use case that makes its moves in a row is its own. -/
theorem isBy_of_alone {α : Type} {start : ι → Workflow γ π α} {first own : List (Move ι)} {i : ι}
    (hfirst : ∀ x, .step i x ∉ first) (hown : ∀ m ∈ own, ∃ x, m = .step i x) {a : Act γ π}
    {later earlier : List (Entry ι γ π)}
    (hlog : (Floor.play start (first ++ own)).log = later ++ .act i a :: earlier) :
    ∀ e ∈ later, e.IsBy i := by
  have hfold : Floor.play start (first ++ own) = own.foldl Floor.move (Floor.play start first) := by
    unfold Floor.play
    rw [List.foldl_append]
  obtain ⟨mine, hmine, hisBy⟩ := exists_log_foldl (Floor.play start first) hown
  intro e he
  rw [hfold, hmine] at hlog
  rcases List.append_eq_append_iff.1 hlog with ⟨own', -, hrest⟩ | ⟨others, hsame, -⟩
  · have hstep : Entry.act i a ∈ (Floor.play start first).log := by
      rw [hrest]
      simp
    exact absurd rfl (not_isBy_play hfirst _ hstep)
  · exact hisBy e (by simp [hsame, he])

theorem undisturbed_of_alone {α : Type} {start : ι → Workflow γ π α} {first own : List (Move ι)}
    {i : ι} (hfirst : ∀ x, .step i x ∉ first) (hown : ∀ m ∈ own, ∃ x, m = .step i x) :
    Undisturbed i (Floor.play start (first ++ own)).log := by
  intro later between earlier q version id found hsplit e he _
  rw [← List.cons_append, ← List.append_assoc] at hsplit
  exact isBy_of_alone hfirst hown hsplit e (by simp [he])

omit [DecidableEq ι] in
theorem Entry.IsBy.save_of_touches {e : Entry ι γ π} {i : ι} (hby : e.IsBy i) {id : PaymentId}
    (htouches : e.Touches id) : ∃ q version, e = .act i (.save q (.ok version)) := by
  unfold Entry.Touches at htouches
  split at htouches
  · obtain rfl := hby
    exact ⟨_, _, rfl⟩
  · exact hby.elim
  · exact htouches.elim

omit [DecidableEq ι] in
/-- A save over what was loaded gets the next version, if nobody has written the payment since. -/
theorem version_of_undisturbed {log later earlier : List (Entry ι γ π)} {i : ι} {p q : Payment}
    {version : Except Conflict Nat}
    (hfits : ∀ later earlier a, log = later ++ .act i a :: earlier → a.Fits (replay earlier))
    (hundisturbed : Undisturbed i log) (hlog : log = later ++ .act i (.save q version) :: earlier)
    (hfound : Entry.act i (.find p.id (some p)) ∈ earlier)
    (hunsaved : ∀ q version, Entry.act i (.save q version) ∉ earlier)
    (hsame : Payment.SameIdentity p q) : version = .ok (p.version + 1) := by
  obtain ⟨between, before, rfl⟩ := List.append_of_mem hfound
  have hstored : some p = (replay before).find? p.id :=
    hfits (later ++ .act i (.save q version) :: between) before (.find p.id (some p))
      (by simp [hlog])
  have hversion : version = (replay (between ++ .act i (.find p.id (some p)) :: before)).nextVersion q :=
    hfits later _ (.save q version) hlog
  have hkept : ∀ e ∈ between, ¬ e.Touches p.id := by
    intro e he htouches
    have hby := hundisturbed later between before q version p.id (some p) hlog e he htouches
    obtain ⟨q', version', rfl⟩ := hby.save_of_touches htouches
    exact hunsaved q' (.ok version') (List.mem_append_left _ he)
  have hfind : (replay (between ++ .act i (.find p.id (some p)) :: before)).find? q.id = some p := by
    rw [hsame.id, find?_replay_append hkept, replay_of_unwritten rfl, ← hstored]
  rw [hversion, nextVersion_of_find?_some hfind, if_pos hsame.version.symm]

/-! ## The decision -/

/-- What has become of a refund for which the store was `s` when it looked for its payment. -/
structure Decided (desk : Desk γ π) (r : RefundRequest) (i : ι) (log : List (Entry ι γ π))
    (outcome : RefundOutcome) (s : Store) : Prop where
  /-- The call has looked for its payment if the request names one, and found what `s` says. -/
  looked : ∀ id, PaymentId.read r.payment = .ok id → ∃ later earlier,
    log = later ++ .act i (.find id (s.find? id)) :: earlier ∧ s = replay earlier
  /-- One gateway is asked, and once at most. -/
  once : ((stepsOf i log).filterMap Act.ordered).length ≤ 1
  /-- It is asked exactly if the refund is accepted. -/
  ordered_iff : ∀ gateway, (∃ order reply, Entry.act i (.pay gateway order reply) ∈ log) ↔
    ∃ p, desk.Accepts s r p gateway
  order : ∀ gateway order reply, Entry.act i (.pay gateway order reply) ∈ log →
    ∃ p amount, desk.Accepts s r p gateway ∧ r.Asks p amount ∧
      order = ⟨p.id, p.transaction, amount, p.currency, r.reason⟩
  success_iff : outcome.isSuccess = true ↔
    ∃ gateway order reply, Entry.act i (.pay gateway order (.ok reply)) ∈ log ∧
      reply.isApproved = true
  /-- The refund is applied to what was stored, under the next version. -/
  applied : outcome.isSuccess = true → ∃ gateway p amount now plan q raw later earlier,
    desk.Accepts s r p gateway ∧ r.Asks p amount ∧
    p.refund now (some amount) r.reason = .ok (plan, q) ∧
    log = later ++ .act i (.save q (.ok (p.version + 1))) :: earlier ∧
    ((∀ e ∈ later, ¬ e.Touches p.id) →
      (replay log).find? p.id = some (q.withVersion (p.version + 1)).commitEvents) ∧
    outcome = .success p.id q.status amount plan.isPartial raw
  rejected : outcome.isSuccess = false →
    outcome.status = .failed ∧ outcome.amount = .finite false 0 ∧ outcome.isPartial = false ∧
    outcome.answer = none ∧ outcome.error ≠ none ∧
    (∀ q version, Entry.act i (.save q (.ok version)) ∉ log) ∧
    ∀ listener event delivery, Entry.act i (.offer listener event delivery) ∉ log

section

variable {desk : Desk γ π} {r : RefundRequest} {i : ι} {log : List (Entry ι γ π)}
  {t : Course.Stage π} {outcome : RefundOutcome}

theorem exists_store (htrail : Trail (Course.Step desk) (.idle (.refund r)) (stepsOf i log) t)
    (hend : Course.Ends desk t (.refund outcome))
    (hfits : ∀ later earlier a, log = later ++ .act i a :: earlier → a.Fits (replay earlier)) :
    ∃ s, (∀ id found, Act.find id found ∈ stepsOf i log → found = s.find? id) ∧
      ∀ id, PaymentId.read r.payment = .ok id → ∃ later earlier,
        log = later ++ .act i (.find id (s.find? id)) :: earlier ∧ s = replay earlier := by
  by_cases hlooked : ∃ id found, Act.find id found ∈ stepsOf i log
  · obtain ⟨id, found, hmem⟩ := hlooked
    obtain ⟨later, earlier, hlog⟩ := List.append_of_mem (mem_stepsOf.1 hmem)
    have hfound : found = (replay earlier).find? id := hfits later earlier _ hlog
    refine ⟨replay earlier, fun id' found' hmem' => ?_, fun id' hread => ?_⟩
    · have hunique := eq_of_length_filterMap_le_one (Course.lookups_le_one htrail) hmem hmem' rfl rfl
      obtain ⟨rfl, rfl⟩ := Prod.mk.inj hunique
      exact hfound
    · have hread' := Course.target_eq_some.1 (Course.target_of_find htrail hmem)
      obtain rfl := Except.ok.inj (hread'.symm.trans hread)
      exact ⟨later, earlier, hfound ▸ hlog, rfl⟩
  · refine ⟨.empty, fun id found hmem => absurd ⟨id, found, hmem⟩ hlooked, fun id hread => ?_⟩
    obtain ⟨found, hmem⟩ := Course.exists_lookup htrail hend hread
    exact absurd ⟨id, found, hmem⟩ hlooked

/-- A save of a refund is accepted under the version after the one that was loaded, and gives what
was planned. -/
theorem accepted_of_save
    (htrail : Trail (Course.Step desk) (.idle (.refund r)) (stepsOf i log) t)
    (hfits : ∀ later earlier a, log = later ++ .act i a :: earlier → a.Fits (replay earlier))
    (hundisturbed : Undisturbed i log) {q : Payment} {version : Except Conflict Nat}
    (hmem : .save q version ∈ stepsOf i log) :
    ∃ p given now later earlier, Course.Granted desk r (stepsOf i log) p given ∧
      p.refund now (some given.plan.amount) r.reason = .ok (given.plan, q) ∧
      version = .ok (p.version + 1) ∧ log = later ++ .act i (.save q version) :: earlier ∧
      ∃ newer, Trail (Course.Step desk) (.saved desk.listeners q (some given) version) newer t := by
  obtain ⟨newer, older, p, given, now, hacts, hgranted, hgives, hnewer⟩ :=
    Course.granted_of_save htrail hmem
  obtain ⟨later, earlier, hlog, -, hearlier⟩ := exists_log_of_stepsOf hacts
  have hfound : Entry.act i (.find p.id (some p)) ∈ earlier := by
    obtain ⟨reply, hordered, -⟩ := hgranted
    rw [← mem_stepsOf, hearlier]
    exact hordered.loaded.found
  have hunsaved : ∀ q version, Entry.act i (.save q version) ∉ earlier := by
    intro q' version' hmem'
    rw [← mem_stepsOf, hearlier] at hmem'
    exact Course.not_mem_save (hacts ▸ htrail) hmem'
  have hversion :=
    version_of_undisturbed hfits hundisturbed hlog hfound hunsaved hgives.sameIdentity
  obtain ⟨result, hrefund, hresult⟩ := Payment.map_eq_ok (Payment.Call.run_of_gives hgives)
  obtain ⟨hq, hplan⟩ := Prod.mk.inj hresult
  have hresult : result = (given.plan, q) := Prod.ext (Option.some.inj hplan) hq
  exact ⟨p, given, now, later, earlier, hgranted.mono (by simp [hacts]), hresult ▸ hrefund, hversion,
    hlog, newer, hnewer⟩

/-- An order that was approved is not lost: what was planned is applied to what was loaded, and the
save gets the next version. -/
theorem applied_of_approved
    (htrail : Trail (Course.Step desk) (.idle (.refund r)) (stepsOf i log) t)
    (hend : Course.Ends desk t (.refund outcome))
    (hfits : ∀ later earlier a, log = later ++ .act i a :: earlier → a.Fits (replay earlier))
    (hundisturbed : Undisturbed i log) {gateway : γ} {order : RefundOrder} {reply : RefundReply}
    (hpaid : .pay gateway order (.ok reply) ∈ stepsOf i log) (happroved : reply.isApproved = true) :
    ∃ p plan now q later earlier, Course.Ordered desk r (stepsOf i log) p plan (.ok reply) ∧
      p.refund now (some plan.amount) r.reason = .ok (plan, q) ∧
      log = later ++ .act i (.save q (.ok (p.version + 1))) :: earlier ∧
      outcome = .success p.id q.status plan.amount plan.isPartial reply.raw := by
  obtain ⟨hone, hunpaid⟩ := Course.orders_le_one htrail
  have hasked : ¬ t.phase < 2 := fun hphase => by
    have hmem : (gateway, order, .ok reply) ∈ (stepsOf i log).filterMap Act.ordered :=
      List.mem_filterMap.2 ⟨_, hpaid, rfl⟩
    rw [hunpaid hphase] at hmem
    exact List.not_mem_nil hmem
  -- there is one answer of a gateway
  have hreply : ∀ {p : Payment} {plan : Payment.RefundPlan}
      {reply' : Except GatewayError RefundReply},
      Course.Ordered desk r (stepsOf i log) p plan reply' → reply' = .ok reply := by
    intro p plan reply' hordered
    obtain ⟨gateway', -, hpaid'⟩ := hordered.paid
    have hunique := eq_of_length_filterMap_le_one hone hpaid' hpaid rfl rfl
    exact (Prod.mk.inj (Prod.mk.inj hunique).2).2
  have hbacked := Course.backed_of_trail htrail
  rcases hend.outcome with ⟨q, receipt, rfl, rfl⟩ | ⟨hfails, -⟩
  · obtain ⟨p, version, hq, hmem⟩ := hbacked
    obtain ⟨p', given, now, later, earlier, ⟨reply', hordered, -, hraw⟩, hrefund, hversion, hlog,
      newer, hnewer⟩ := accepted_of_save htrail hfits hundisturbed hmem
    obtain rfl := Except.ok.inj (hreply hordered)
    obtain rfl : version = p'.version + 1 := Except.ok.inj hversion
    obtain ⟨agenda, htold⟩ := Course.telling_of_trail hnewer
    injection htold with _ hreceipt
    obtain rfl := Option.some.inj hreceipt
    have hid : p.id = p'.id := Payment.refund_id hrefund
    refine ⟨p', receipt.plan, now, p, later, earlier, hordered, hrefund, hlog, ?_⟩
    rw [hraw, hq, ← hid]
    rfl
  · cases hfails with
    | declined hdeclined =>
      obtain ⟨hcall, hordered⟩ := hbacked
      cases hcall
      have hnot := hdeclined reply (hreply hordered)
      cases happroved.symm.trans hnot
    | conflict =>
      obtain ⟨p, given, now, later, earlier, -, -, hversion, -⟩ :=
        accepted_of_save htrail hfits hundisturbed hbacked
      cases hversion
    | _ => exact absurd (by simp [Course.Stage.phase]) hasked

theorem exists_decided (htrail : Trail (Course.Step desk) (.idle (.refund r)) (stepsOf i log) t)
    (hend : Course.Ends desk t (.refund outcome))
    (hfits : ∀ later earlier a, log = later ++ .act i a :: earlier → a.Fits (replay earlier))
    (hbalanced : ∀ id p, Entry.act i (.find id (some p)) ∈ log → p.IsBalanced)
    (hundisturbed : Undisturbed i log) : ∃ s, Decided desk r i log outcome s := by
  obtain ⟨s, hfound, hlooked⟩ := exists_store htrail hend hfits
  -- what was loaded and prepared is what is accepted
  have haccepts : ∀ {p : Payment} {plan : Payment.RefundPlan} {gateway : γ},
      Course.Loaded (.refund r) (stepsOf i log) p → desk.Prepares r p plan gateway →
      p.tenant = r.tenant → desk.Accepts s r p gateway := fun hloaded hprepares hown =>
    hprepares.accepts (Course.target_eq_some.1 hloaded.target) (hfound _ _ hloaded.found).symm hown
  have happlied : ∀ {gateway : γ} {order : RefundOrder} {reply : RefundReply},
      .pay gateway order (.ok reply) ∈ stepsOf i log → reply.isApproved = true → _ :=
    fun hpaid happroved => applied_of_approved htrail hend hfits hundisturbed hpaid happroved
  have hpaid : outcome.isSuccess = true → ∃ gateway order reply,
      .pay gateway order (.ok reply) ∈ stepsOf i log ∧ reply.isApproved = true := by
    intro hsuccess
    rcases hend.outcome with ⟨q, receipt, rfl, -⟩ | ⟨-, payment, text, rfl⟩
    · obtain ⟨p, version, -, hmem⟩ := Course.backed_of_trail htrail
      obtain ⟨newer, older, p, given, now, hacts, ⟨reply, hordered, happroved, -⟩, -⟩ :=
        Course.granted_of_save htrail hmem
      obtain ⟨gateway, -, hpaid⟩ := hordered.paid
      have hsub : older ⊆ stepsOf i log := by simp [hacts]
      exact ⟨gateway, _, reply, hsub hpaid, happroved⟩
    · cases hsuccess
  refine ⟨s, hlooked, (Course.orders_le_one htrail).1, fun gateway => ⟨?_, ?_⟩, ?_,
    ⟨fun hsuccess => ?_, ?_⟩, fun hsuccess => ?_, fun hfailure => ?_⟩
  · rintro ⟨order, reply, hmem⟩
    obtain ⟨p, plan, hloaded, hown, hprepares, -⟩ :=
      Course.ordered_of_pay htrail (mem_stepsOf.2 hmem)
    exact ⟨p, haccepts hloaded hprepares hown⟩
  · rintro ⟨p, haccepted⟩
    obtain ⟨later, earlier, hlog, -⟩ := hlooked p.id haccepted.named
    have hmem : Entry.act i (.find p.id (some p)) ∈ log := by
      rw [hlog, haccepted.stored]
      simp
    have hleft := (hbalanced p.id p hmem).lt_of_refundable haccepted.status
    obtain ⟨plan, hprepares⟩ := haccepted.prepares hleft
    obtain ⟨order, reply, hpay⟩ :=
      Course.exists_pay htrail hend (mem_stepsOf.2 hmem) haccepted.own hprepares
    exact ⟨order, reply, mem_stepsOf.1 hpay⟩
  · intro gateway order reply hmem
    obtain ⟨p, plan, hloaded, hown, hprepares, rfl⟩ :=
      Course.ordered_of_pay htrail (mem_stepsOf.2 hmem)
    exact ⟨p, plan.amount, haccepts hloaded hprepares hown, hprepares.asks, rfl⟩
  · obtain ⟨gateway, order, reply, hmem, happroved⟩ := hpaid hsuccess
    exact ⟨gateway, order, reply, mem_stepsOf.1 hmem, happroved⟩
  · rintro ⟨gateway, order, reply, hmem, happroved⟩
    obtain ⟨p, plan, now, q, later, earlier, -, -, -, rfl⟩ :=
      happlied (mem_stepsOf.2 hmem) happroved
    rfl
  · obtain ⟨gateway, order, reply, hmem, happroved⟩ := hpaid hsuccess
    obtain ⟨p, plan, now, q, later, earlier, hordered, hrefund, hlog, houtcome⟩ :=
      happlied hmem happroved
    obtain ⟨gateway', hprepares, -⟩ := hordered.paid
    refine ⟨gateway', p, plan.amount, now, plan, q, reply.raw, later, earlier,
      haccepts hordered.loaded hprepares hordered.own, hprepares.asks, hrefund, hlog,
      fun hkept => ?_, houtcome⟩
    have hid : q.id = p.id := Payment.refund_id hrefund
    rw [hlog, find?_replay_append hkept, find?_replay_save, if_pos hid]
  · rcases hend.outcome with ⟨q, receipt, -, rfl⟩ | ⟨hfails, payment, text, rfl⟩
    · cases hfailure
    · have hnothing := Course.stored_of_trail htrail
      rw [hfails.stored] at hnothing
      refine ⟨rfl, rfl, rfl, rfl, Option.some_ne_none text, fun q version hmem => ?_,
        fun listener event delivery hmem => ?_⟩
      · have hstored : q.withVersion version ∈ (stepsOf i log).filterMap Act.stored :=
          List.mem_filterMap.2 ⟨_, mem_stepsOf.2 hmem, rfl⟩
        rw [hnothing] at hstored
        exact List.not_mem_nil hstored
      · exact Course.stored_of_mem_offer htrail (mem_stepsOf.2 hmem) hfails.stored

end

/-! ## The decision in every run -/

-- neither the call nor its protocol is to be run to see that the two belong together
section

attribute [local irreducible] Workflow.Keeps

theorem exists_outcome {desk : Desk γ π} {start : ι → Workflow γ π (Option Answer)} {i : ι}
    {r : RefundRequest} (hstart : start i = (Party.useCase (.refund r)).workflow desk)
    {moves : List (Move ι)} {result : Option Answer}
    (hdone : (Floor.play start moves).running i = .done result) :
    ∃ outcome, result = some (.refund outcome) := by
  have hkeeps : (start i).Keeps (fun _ _ _ => True)
      (fun (_ : Unit) result => ∃ answer, result = some answer ∧ ∃ outcome, answer = .refund outcome)
      () := by
    rw [hstart]
    exact keeps_bind (Workflow.keeps_result (desk.refund r) Answer.refund)
      fun _ answer hanswer => Workflow.keeps_done.2 ⟨answer, rfl, hanswer⟩
  obtain ⟨_, -, hend⟩ := exists_trail_play start hkeeps moves
  obtain ⟨answer, rfl, outcome, rfl⟩ := hend.of_done hdone
  exact ⟨outcome, rfl⟩

/-- A refund comes to an answer by steps of its own, whatever these are answered. -/
theorem exists_answer {desk : Desk γ π} {start : ι → Workflow γ π (Option Answer)} {i : ι}
    {r : RefundRequest} (hstart : start i = (Party.useCase (.refund r)).workflow desk)
    (moves : List (Move ι)) (x : Outside) :
    ∃ n outcome, (Floor.play start (moves ++ List.replicate n (.step i x))).running i =
      .done (some (.refund outcome)) := by
  obtain ⟨n, result, hresult⟩ := Floor.exists_done start moves i x
  obtain ⟨outcome, rfl⟩ := exists_outcome hstart hresult
  exact ⟨n, outcome, hresult⟩

theorem exists_ended {desk : Desk γ π} {start : ι → Workflow γ π (Option Answer)} {i : ι}
    {r : RefundRequest} (hstart : start i = (Party.useCase (.refund r)).workflow desk)
    {moves : List (Move ι)} {outcome : RefundOutcome}
    (hdone : (Floor.play start moves).running i = .done (some (.refund outcome))) :
    ∃ t, Trail (Course.Step desk) (.idle (.refund r)) (stepsOf i (Floor.play start moves).log) t ∧
      Course.Ends desk t (.refund outcome) := by
  have hkeeps := Party.keeps_useCase desk (.refund r)
  rw [← hstart] at hkeeps
  obtain ⟨t, htrail, hend⟩ := exists_trail_play start hkeeps moves
  obtain ⟨answer, hanswer, hend⟩ := hend.of_done hdone
  obtain rfl := Option.some.inj hanswer
  exact ⟨t, htrail, hend⟩

/-- **The decision of a refund.** Calls of the service and writers share a store from which payments
are taken out, in any order of their steps. A refund among them comes to an answer. If nobody else
writes its payment between its load and its save, then a gateway is asked once at most, and exactly
if the request names a stored payment of its tenant that can be refunded by the amount that it asks
for, through a gateway that is registered for tenant and provider; the answer is a success exactly if
the gateway approves, and then the refund is applied to the stored payment under the next version;
otherwise the answer says that it failed, and nothing was stored or told. -/
theorem refund_decided (desk : Desk γ π) (parties : ι → Party) (i : ι) (r : RefundRequest)
    (moves : List (Move ι)) (hi : parties i = .useCase (.refund r)) :
    let start := fun j => (parties j).workflow desk
    let floor := Floor.play start moves
    (∀ x, ∃ n outcome, (Floor.play start (moves ++ List.replicate n (.step i x))).running i =
      .done (some (.refund outcome))) ∧
    ∀ outcome, floor.running i = .done (some (.refund outcome)) → Undisturbed i floor.log →
      ∃ s, Decided desk r i floor.log outcome s := by
  intro start floor
  have hstart : start i = (Party.useCase (.refund r)).workflow desk :=
    congrArg (fun party => party.workflow desk) hi
  refine ⟨exists_answer hstart moves, fun outcome hdone hundisturbed => ?_⟩
  obtain ⟨t, htrail, hend⟩ := exists_ended hstart hdone
  have hcustody := Party.custody desk parties moves
  exact exists_decided htrail hend (fun _ _ _ hlog => fits_of_log hlog)
    (fun _ _ hfound => hcustody.balanced hfound) hundisturbed

end

open scoped Trial

/-- A payment of one hundred dollars is made, started, completed and refunded. -/
def Party.sequence : Fin 4 → Party
  | 0 => .useCase (UseCase.racing 0)
  | 1 => .useCase (UseCase.racing 1)
  | 2 => .useCase (UseCase.racing 2)
  | 3 => .useCase (UseCase.racing 3)

/-- The refund of the sequence is ordered, approved and applied. -/
theorem refund_decided_sequence :
    let outside : Outside := ⟨default, .first, .ok (.approved none), .accepted⟩
    let moves := [0, 0, 0, 1, 1, 1, 2, 2, 2].map (fun j => Move.step j outside) ++
      List.replicate 4 (.step 3 outside)
    let start := fun j => (Party.sequence j).workflow Desk.plain
    ∃ outcome s, (Floor.play start moves).running 3 = .done (some (.refund outcome)) ∧
      outcome.isSuccess = true ∧
      Decided Desk.plain ⟨PaymentId.first.toText, "shop", none, none⟩ 3
        (Floor.play start moves).log outcome s := by
  intro outside moves start
  have hends : ((Floor.play start moves).running 3).endsIn
      (fun result => result.any Answer.isSuccess) = true := by decide +kernel
  have hrefund : start 3 = (Party.useCase
      (.refund ⟨PaymentId.first.toText, "shop", none, none⟩)).workflow Desk.plain := rfl
  obtain ⟨result, hdone, hsuccess⟩ := Workflow.eq_done_of_endsIn hends
  obtain ⟨outcome, rfl⟩ := exists_outcome hrefund hdone
  have hfirst : ∀ x, Move.step 3 x ∉
      [0, 0, 0, 1, 1, 1, 2, 2, 2].map (fun j : Fin 4 => Move.step j outside) := by
    intro x hmem
    obtain ⟨j, hj, heq⟩ := List.mem_map.1 hmem
    injection heq with heq
    subst heq
    exact absurd hj (by decide)
  have hundisturbed : Undisturbed 3 (Floor.play start moves).log :=
    undisturbed_of_alone hfirst fun m hm => ⟨outside, List.eq_of_mem_replicate hm⟩
  have hdecided := (refund_decided Desk.plain Party.sequence 3
    ⟨PaymentId.first.toText, "shop", none, none⟩ moves rfl).2 outcome
  have hstart : (fun j => (Party.sequence j).workflow Desk.plain) = start := rfl
  rw [hstart] at hdecided
  obtain ⟨s, hs⟩ := hdecided hdone hundisturbed
  exact ⟨outcome, s, hdone, hsuccess, hs⟩

end Paydesk
