import Paydesk.Proofs.Service.Isolation
import Paydesk.Proofs.Web.Refinement

/-!
# Tenants are isolated

Whatever is asked of the program, directly or over HTTP (`Demand`), by any tenants at once: nothing
that one tenant is answered, has stored or has published depends on what the others ask
(`tenants_isolated`).

1. Answering a request does an errand of the tenant that its header names, or comes without a step
   (`serves_respond`).
2. So runs in which a tenant asks the same are runs that it cannot tell apart
   (`indistinct_of_inStep`), and everything else follows from that.
-/

namespace Paydesk.Web

variable {ι γ π α β : Type}

/-! ## What is asked of the program -/

/-- Something that is asked of the program. -/
inductive Demand where
  | direct (errand : Errand)
  | http (request : Request)

namespace Demand

/-- The tenant that asks, if a request names one. -/
def tenant? : Demand → Option String
  | .direct errand => some errand.tenant
  | .http request => request.tenantName?

/-- The use case that answers, with a reply or a response. -/
def workflow (desk : Desk γ π) : Demand → Workflow γ π (Reply ⊕ Response)
  | .direct errand => (errand.workflow desk).bind fun reply => .done (.inl reply)
  | .http request => (respond desk request).bind fun response => .done (.inr response)

end Demand

/-- The floor after steps of answers to demands. -/
def floor [DecidableEq ι] (desk : Desk γ π) (demands : ι → Demand) (steps : List (ι × Outside)) :
    Floor ι γ π (Reply ⊕ Response) :=
  Floor.play (fun i => (demands i).workflow desk) (steps.map fun step => .step step.1 step.2)

/-! ## Requests as errands of their tenants -/

variable {desk : Desk γ π} {r : Request} {tenant : String}

theorem named_tenant {text : String} {errand : PaymentId → Errand} {e : Errand}
    (h : named text errand = .ok e) (htenant : ∀ id, (errand id).tenant = tenant) :
    e.tenant = tenant := by
  obtain ⟨id, rfl⟩ := exists_of_named_eq_ok h
  exact htenant id

theorem Asks.tenant_eq {e : Errand} (h : Asks r tenant (.ok e)) : e.tenant = tenant := by
  generalize hasked : (Except.ok e : Except ServiceError Errand) = asked at h
  cases h with
  | create => cases hasked; rfl
  | list => cases hasked; rfl
  | refund => cases hasked; rfl
  | get => exact named_tenant hasked.symm fun _ => rfl
  | process => exact named_tenant hasked.symm fun _ => rfl
  | complete => exact named_tenant hasked.symm fun _ => rfl
  | fail => exact named_tenant hasked.symm fun _ => rfl
  | cancel => exact named_tenant hasked.symm fun _ => rfl

theorem serves_fulfil {asked : Except ServiceError Errand} (h : Asks r tenant asked) :
    Errand.Serves desk (some tenant) (fulfil desk asked) := by
  cases asked with
  | error why => exact .atOnce _ _
  | ok e => exact h.tenant_eq ▸ .errand e (responseTo e)

theorem serves_of_not_head (hmethod : r.method ≠ "HEAD") :
    Errand.Serves desk r.tenantName? (respond desk r) := by
  by_cases hasked : ∃ tenant asked, r.NamesTenant tenant ∧ Asks r tenant asked
  · obtain ⟨tenant, asked, htenant, hasks⟩ := hasked
    rw [respond_of_asks htenant hasks, Request.tenantName?_eq_some.2 htenant]
    exact serves_fulfil hasks
  · have hnothing : AtOnce (respond desk r) := exists_respond_of_not_asks hmethod
      fun tenant asked htenant hasks => hasked ⟨tenant, asked, htenant, hasks⟩
    obtain ⟨response, hrespond⟩ := hnothing
    rw [hrespond]
    exact .atOnce _ _

/-- Answering a request does an errand of the tenant that it names, or comes without a step. -/
theorem serves_respond (desk : Desk γ π) (r : Request) :
    Errand.Serves desk r.tenantName? (respond desk r) := by
  by_cases hhead : r.method = "HEAD"
  · by_cases hserved : Route.isPublic r.path = true ∨ ∃ tenant, r.NamesTenant tenant
    · have hget : Errand.Serves desk r.tenantName? (respond desk { r with method := "GET" }) :=
        serves_of_not_head (r := { r with method := "GET" }) (show "GET" ≠ "HEAD" by decide)
      rw [respond_of_head hhead hserved]
      exact hget.conclude Response.headOnly
    · obtain ⟨hpublic, hunnamed⟩ := not_or.1 hserved
      rw [respond_of_unnamed (by simpa using hpublic) (not_exists.1 hunnamed)]
      exact .atOnce _ _
  · exact serves_of_not_head hhead

theorem Demand.serves (desk : Desk γ π) (d : Demand) :
    Errand.Serves desk d.tenant? (d.workflow desk) := by
  cases d with
  | direct e => exact .errand e Sum.inl
  | http request => exact (serves_respond desk request).conclude Sum.inr

/-! ## The main result -/

section Runs

variable [DecidableEq ι]

/-- **Tenants are isolated.** Two runs of the program, in each of which any tenants ask anything,
directly or over HTTP, with their steps in any order; but one tenant asks the same in both, and takes
the same steps, at the same times and with the same new names. No name that is drawn for this tenant
is drawn for another one, and gateways answer its orders by what they are given. Then, whatever the
other tenants ask, and whatever listeners answer:

1. Whoever of this tenant has an answer in one run has the same in the other one, or has only
   listeners and operators to tell before it.
2. The tenant has the same payments stored.
3. It has saved the same, and ordered the same refunds with the same replies, in the same order.
4. The same events of its payments have been recorded.
5. If listeners answer in the same way, what has been offered to them by the time of the answer is the
   same.
6. Only the tenant itself stores, pays back or tells of a payment whose name was drawn for it.

This holds of every tenant, and one of the runs may be that of the tenant alone. So another tenant
that guesses the name of a payment is answered as if there were none. -/
theorem tenants_isolated (desk : Desk γ π)
    (pays : γ → RefundOrder → Except GatewayError RefundReply) (tenant : String)
    {demands demands' : ι → Demand} {steps steps' : List (ι × Outside)}
    (hdemands : ∀ i, (demands i).tenant? = some tenant ∨ (demands' i).tenant? = some tenant →
      demands' i = demands i)
    (hsteps : ownSteps (fun i => (demands i).tenant? = some tenant) steps =
      ownSteps (fun i => (demands i).tenant? = some tenant) steps')
    (hnames : NamesApart (fun i => (demands i).tenant?) tenant (floor desk demands steps).log)
    (hnames' : NamesApart (fun i => (demands' i).tenant?) tenant (floor desk demands' steps').log)
    (hpaid : PaidBy pays (fun i => (demands i).tenant? = some tenant)
      (floor desk demands steps).log)
    (hpaid' : PaidBy pays (fun i => (demands' i).tenant? = some tenant)
      (floor desk demands' steps').log) :
    let own := fun i => (demands i).tenant? = some tenant
    let run := floor desk demands steps
    let run' := floor desk demands' steps'
    (∀ i, own i → ∀ a, run.running i = .done a →
      (run'.running i).Alike (.done a) ∧ ∀ a', run'.running i = .done a' → a' = a) ∧
    run'.store.holdings tenant = run.store.holdings tenant ∧
    deeds own run'.log = deeds own run.log ∧
    (recorded run'.log).filter (fun r => own r.1) = (recorded run.log).filter (fun r => own r.1) ∧
    (∀ behaves, AnsweredBy behaves run.log → AnsweredBy behaves run'.log →
      ∀ i, own i → (run.running i).isDone = true → (run'.running i).isDone = true →
        offeredBy i run'.log = offeredBy i run.log) ∧
    ∀ i a id, .act i a ∈ run.log → a.about = some id →
      NamedFor (fun i => (demands i).tenant?) run.log tenant id → own i := by
  intro own run run'
  have hfair : Fair desk (fun i => (demands i).tenant?) tenant pays
      (fun i => (demands i).workflow desk) steps := ⟨fun i => (demands i).serves desk, hnames, hpaid⟩
  have hfair' : Fair desk (fun i => (demands' i).tenant?) tenant pays
      (fun i => (demands' i).workflow desk) steps' :=
    ⟨fun i => (demands' i).serves desk, hnames', hpaid'⟩
  have hsame : Floor.Indistinct tenant own run run' := by
    refine indistinct_of_inStep (fun i => ⟨fun hi => ?_, fun hi => ?_⟩) (fun i hi => ?_)
      (inStep_of_ownSteps hsteps) hfair hfair'
    · exact hdemands i (.inr hi) ▸ hi
    · exact (hdemands i (.inl hi)).symm ▸ hi
    · rw [hdemands i (.inl hi)]
  refine ⟨fun i hi a ha => ?_, hsame.holdings.symm, hsame.deeds.symm, ?_, ?_, ?_⟩
  · have hlevel := hsame.running i hi
    rw [ha] at hlevel
    obtain ⟨b, hleft, hright⟩ := hlevel.of_told (.done a)
    obtain rfl := hleft.eq_of_done
    refine ⟨hright, fun a' ha' => ?_⟩
    rw [ha'] at hright
    exact hright.eq_of_done
  · rw [← recorded_deeds, ← recorded_deeds, hsame.deeds]
  · intro behaves hanswered hanswered' i hi hdone hdone'
    obtain ⟨a, ha⟩ := Workflow.eq_done_of_isDone hdone
    obtain ⟨a', ha'⟩ := Workflow.eq_done_of_isDone hdone'
    have hstored : storedBy i run'.log = storedBy i run.log := by
      rw [← storedBy_deeds hi run'.log, ← storedBy_deeds hi run.log, hsame.deeds]
    calc offeredBy i run'.log
      _ = rounds behaves desk.listeners ((storedBy i run'.log).reverse.flatMap Payment.events) :=
        hfair'.offeredBy_of_done hanswered' ha'
      _ = rounds behaves desk.listeners ((storedBy i run.log).reverse.flatMap Payment.events) := by
        rw [hstored]
      _ = offeredBy i run.log := (hfair.offeredBy_of_done hanswered ha).symm
  · intro i a id hmem habout hnamed
    obtain ⟨owner, howner, hdrawn⟩ := Errand.Serves.namedFor hfair.serves _ hmem habout
    rw [NamedFor.eq hnames hnamed hdrawn] at howner
    exact howner

end Runs

/-! ### A rival -/

/-- A tenant asks for the money of the first payment. -/
def reclaiming (tenant : String) : Request where
  method := "POST"
  address := "/api/payments/" ++ PaymentId.first.toText ++ "/refund"
  tenant := some tenant
  contentType := none
  body := []

open scoped Trial

/-- A shop makes, starts and completes a payment and pays it back over HTTP; a rival demands
something. -/
def rivalry (rival : Demand) : Fin 5 → Demand
  | 0 => .direct (.command (.create "shop" ⟨"paypal", .ofNat 100, "usd", "first", none, none⟩))
  | 1 => .direct (.command (.startProcessing "shop" .first))
  | 2 => .direct (.command (.complete "shop" .first ⟨"paid", none⟩))
  | 3 => .http (reclaiming "shop")
  | 4 => rival

/-- The rival guesses the name of the shop's payment and asks for the money. -/
def guessing : Demand :=
  .http (reclaiming "rival")

/-- The rival minds its own business. -/
def minding : Demand :=
  .direct (.command (.create "rival" ⟨"paypal", .ofNat 50, "eur", "other", none, none⟩))

/-- Steps in this order. Everything is approved, and the rival has a name of its own. -/
def rivalSteps (order : List (Fin 5)) : List (Fin 5 × Outside) :=
  order.map fun i =>
    (i, ⟨default, if i = 4 then .make 0 1 else .first, .ok (.approved none), .accepted⟩)

/-- The rival asks while the shop is about to complete its payment and to pay it back. -/
def guessSteps : List (Fin 5 × Outside) :=
  rivalSteps [0, 0, 0, 1, 1, 1, 4, 2, 2, 2, 3, 4, 3, 3, 3]

/-- The rival begins before the shop and ends while the shop makes its payment. -/
def mindSteps : List (Fin 5 × Outside) :=
  rivalSteps [4, 4, 0, 4, 0, 0, 1, 1, 1, 2, 2, 2, 3, 3, 3, 3]

/-- The log tells of names that only the shop draws, and only once, and of orders that were approved. -/
def isFair (demands : Fin 5 → Demand) (log : List (Entry (Fin 5) Unit Empty)) : Bool :=
  log.all fun
    | .act i (.freshId id) => (demands i).tenant? = some "shop" ↔ id = .first
    | .act _ (.pay _ _ (.ok reply)) => reply.isApproved && reply.raw.isNone && reply.error.isNone
    | .act _ (.pay _ _ (.error _)) => false
    | _ => true

theorem namesApart_of_isFair {demands : Fin 5 → Demand} {log : List (Entry (Fin 5) Unit Empty)}
    (h : isFair demands log = true) : NamesApart (fun i => (demands i).tenant?) "shop" log := by
  intro i j id hi hmem hmem'
  have hdrawn : ∀ k, .act k (.freshId id) ∈ log → ((demands k).tenant? = some "shop" ↔ id = .first) :=
    fun k hk => of_decide_eq_true (List.all_eq_true.1 h _ hk)
  exact (hdrawn j hmem').2 ((hdrawn i hmem).1 hi)

theorem paidBy_of_isFair {demands : Fin 5 → Demand} {log : List (Entry (Fin 5) Unit Empty)}
    (h : isFair demands log = true) :
    PaidBy (fun _ _ => .ok (.approved none)) (fun i => (demands i).tenant? = some "shop") log := by
  intro i gateway order reply hi hmem
  have hreply := List.all_eq_true.1 h _ hmem
  cases reply with
  | error e => cases hreply
  | ok reply =>
    obtain ⟨isApproved, raw, error⟩ := reply
    simp_all [RefundReply.approved]

/-- The shop is answered the same, whatever the rival demands and whenever it does. -/
theorem tenants_isolated_rival :
    let run := floor Desk.plain (rivalry guessing) guessSteps
    let run' := floor Desk.plain (rivalry minding) mindSteps
    (∃ a, run.running 3 = .done a ∧ run'.running 3 = .done a) ∧
      run'.store.holdings "shop" = run.store.holdings "shop" ∧
      (run.store.holdings "rival").length = 0 ∧ (run'.store.holdings "rival").length = 1 := by
  have hdone : ((floor Desk.plain (rivalry guessing) guessSteps).running 3).isDone = true := by
    decide +kernel
  have hdone' : ((floor Desk.plain (rivalry minding) mindSteps).running 3).isDone = true := by
    decide +kernel
  have hfair : isFair (rivalry guessing) (floor Desk.plain (rivalry guessing) guessSteps).log =
    true := by decide +kernel
  have hfair' : isFair (rivalry minding) (floor Desk.plain (rivalry minding) mindSteps).log =
    true := by decide +kernel
  have hdemands : ∀ i, (rivalry guessing i).tenant? = some "shop" ∨
      (rivalry minding i).tenant? = some "shop" → rivalry minding i = rivalry guessing i := by
    intro i hi
    match i with
    | 0 | 1 | 2 | 3 => rfl
    | 4 => exact absurd hi (by decide +kernel)
  have hsteps : ownSteps (fun i => (rivalry guessing i).tenant? = some "shop") guessSteps =
      ownSteps (fun i => (rivalry guessing i).tenant? = some "shop") mindSteps := by decide +kernel
  obtain ⟨hanswers, hholdings, -⟩ := tenants_isolated Desk.plain
    (fun _ _ => .ok (.approved none)) "shop" hdemands hsteps (namesApart_of_isFair hfair)
    (namesApart_of_isFair hfair') (paidBy_of_isFair hfair) (paidBy_of_isFair hfair')
  obtain ⟨a, ha⟩ := Workflow.eq_done_of_isDone hdone
  obtain ⟨a', ha'⟩ := Workflow.eq_done_of_isDone hdone'
  obtain rfl := (hanswers 3 (by decide +kernel) a ha).2 a' ha'
  exact ⟨⟨a', ha, ha'⟩, hholdings, by decide +kernel, by decide +kernel⟩

end Paydesk.Web
