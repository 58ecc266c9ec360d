import Paydesk.Proofs.Gateway.Registry
import Paydesk.Proofs.Service.Decision

/-!
# Where refunds go

Whatever was registered in whatever order, `routed_as_registered` says which client a tenant gets for
a provider, and that every order of a refund goes to the gateway of just that client: the one that was
registered last for the tenant of the payment and its provider, or else the one that was registered
last for the provider. Only the step that orders asks a gateway (`Course.refund_of_pay`), and it was
prepared with the client that the registry gives (`Course.ordered_of_pay`).
-/

namespace Paydesk

variable {ι γ π : Type}

/-- The client that registrations in a row leave for a tenant and a provider: the last one that was
registered for both, or else the last one that was registered for the provider. -/
def Registry.Chosen (calls : List (Registry.Call γ)) (tenant : String) (p : Provider)
    (c : Client γ) : Prop :=
  Registry.LastFor calls (some tenant, p) c ∨
    (∀ call ∈ calls, call.key ≠ (some tenant, p)) ∧ Registry.LastFor calls (none, p) c

theorem Registry.resolve_after {calls : List (Registry.Call γ)} {tenant : String} {p : Provider}
    {c : Client γ} :
    (Registry.after calls).resolve tenant p = .ok c ↔ Registry.Chosen calls tenant p c := by
  rw [Registry.resolve_eq_ok, Registry.find?_after, Registry.find?_after,
    Registry.find?_after_eq_none]
  rfl

theorem Registry.Chosen.provider {calls : List (Registry.Call γ)} {tenant : String} {p : Provider}
    {c : Client γ} (h : Registry.Chosen calls tenant p c) : c.provider = p := by
  rcases h with h | ⟨-, h⟩
  · exact h.provider
  · exact h.provider

theorem Course.refund_of_pay {desk : Desk γ π} {u : UseCase} {acts : List (Act γ π)}
    {t : Course.Stage π} (h : Trail (Course.Step desk) (.idle u) acts t) {gateway : γ}
    {order : RefundOrder} {reply : Except GatewayError RefundReply}
    (hmem : .pay gateway order reply ∈ acts) : ∃ r, u = .refund r := by
  obtain ⟨newer, older, rfl⟩ := List.append_of_mem hmem
  obtain ⟨s, s', holder, hpay, -⟩ := h.of_append_cons
  have hbacked := Course.backed_of_trail holder
  cases hpay with
  | pay =>
    obtain ⟨rfl, -⟩ := hbacked
    exact ⟨_, rfl⟩

/-- Among parties an order is one of a refund, for a payment that it has loaded, to the gateway of
the client that the registry gives. -/
theorem Party.routed_of_pay [DecidableEq ι] (desk : Desk γ π) (parties : ι → Party)
    (moves : List (Move ι)) {i : ι} {gateway : γ} {order : RefundOrder}
    {reply : Except GatewayError RefundReply}
    (hmem : Entry.act i (.pay gateway order reply) ∈
      (Floor.play (fun i => (parties i).workflow desk) moves).log) :
    ∃ r p client, parties i = .useCase (.refund r) ∧
      Entry.act i (.find p.id (some p)) ∈
        (Floor.play (fun i => (parties i).workflow desk) moves).log ∧
      order.payment = p.id ∧ p.tenant = r.tenant ∧ client.gateway = some gateway ∧
      desk.registry.resolve p.tenant p.provider = .ok client := by
  cases hparty : parties i with
  | writer w =>
    have hkeeps := Party.keeps_writer desk w
    rw [← hparty] at hkeeps
    obtain ⟨t, htrail, -⟩ := exists_trail_play (fun i => (parties i).workflow desk) hkeeps moves
    obtain ⟨newer, older, hsplit⟩ := List.append_of_mem (mem_stepsOf.2 hmem)
    rw [hsplit] at htrail
    obtain ⟨s, s', -, hpay, -⟩ := htrail.of_append_cons
    cases hpay
  | useCase u =>
    have hkeeps := Party.keeps_useCase desk u
    rw [← hparty] at hkeeps
    obtain ⟨t, htrail, -⟩ := exists_trail_play (fun i => (parties i).workflow desk) hkeeps moves
    obtain ⟨r, rfl⟩ := Course.refund_of_pay htrail (mem_stepsOf.2 hmem)
    obtain ⟨p, plan, hloaded, hown, hprepares, rfl⟩ :=
      Course.ordered_of_pay htrail (mem_stepsOf.2 hmem)
    obtain ⟨client, hclient, hgateway⟩ := Desk.gateway_eq_ok.1 hprepares.routed
    exact ⟨r, p, client, rfl, mem_stepsOf.1 hloaded.found, rfl, hown, hgateway, hclient⟩

/-- **Refunds go where the registrations say.** After any registrations in a row, for any tenant and
provider: the client to use is the last one that was registered for just this tenant and provider, or
else the last default client of the provider; without either the answer is that none is configured
for them; and the client is always one of the provider. Registrations for different keys can be made
in either order. The providers with a default client are listed once each, in the order of all
providers. And whoever works on a store with this registry, an order goes to a gateway of the client
for the tenant and the provider of the payment that was loaded, whose tenant is the one that has asked
for the refund. -/
theorem routed_as_registered [DecidableEq ι] (calls : List (Registry.Call γ)) :
    let r := Registry.after calls
    (∀ tenant p c, r.resolve tenant p = .ok c ↔ Registry.Chosen calls tenant p c) ∧
    (∀ tenant p e, r.resolve tenant p = .error e ↔ e = .notConfigured tenant p ∧
      ∀ call ∈ calls, call.key ≠ (some tenant, p) ∧ call.key ≠ (none, p)) ∧
    (∀ tenant p c, r.resolve tenant p = .ok c → c.provider = p) ∧
    (∀ first last a b, calls = first ++ a :: b :: last → a.key ≠ b.key →
      let swapped := Registry.after (first ++ b :: a :: last)
      r.resolve = swapped.resolve ∧ r.configured = swapped.configured) ∧
    r.configured.Sublist Provider.all ∧ r.configured.Nodup ∧
    (∀ p, p ∈ r.configured ↔ ∃ c, c.provider = p ∧ .register c ∈ calls) ∧
    ∀ (desk : Desk γ π) (parties : ι → Party) (moves : List (Move ι)), desk.registry = r →
      let log := (Floor.play (fun i => (parties i).workflow desk) moves).log
      ∀ i gateway order reply, Entry.act i (.pay gateway order reply) ∈ log →
        ∃ request p client, parties i = .useCase (.refund request) ∧
          Entry.act i (.find p.id (some p)) ∈ log ∧ order.payment = p.id ∧
          p.tenant = request.tenant ∧ client.gateway = some gateway ∧ client.provider = p.provider ∧
          Registry.Chosen calls request.tenant p.provider client := by
  intro r
  have hfound : ∀ {tenant p c}, r.resolve tenant p = .ok c ↔ Registry.Chosen calls tenant p c :=
    Registry.resolve_after
  refine ⟨fun _ _ _ => hfound, fun tenant p e => ?missing, fun _ _ _ h => (hfound.1 h).provider,
    fun first last a b hcalls hkeys => ?swapped, List.filter_sublist, ?nodup, fun p => ?listed,
    fun desk parties moves hregistry => ?routed⟩
  case missing =>
    rw [Registry.resolve_eq_error, Registry.find?_after_eq_none, Registry.find?_after_eq_none]
    simp only [forall_and]
  case swapped =>
    subst hcalls
    have hsame := Registry.find?_after_swap hkeys first last
    exact ⟨funext fun tenant => funext fun p => Registry.resolve_congr hsame,
      Registry.configured_congr hsame⟩
  case nodup => exact List.filter_sublist.nodup (by decide)
  case listed =>
    show p ∈ (Registry.after calls).configured ↔ _
    simp only [Registry.mem_configured, Registry.find?_after, Registry.exists_lastFor]
    constructor
    · rintro ⟨call, hmem, hkey⟩
      cases call with
      | register c =>
        cases hkey
        exact ⟨c, rfl, hmem⟩
      | registerFor tenant c => cases hkey
    · rintro ⟨c, rfl, hmem⟩
      exact ⟨_, hmem, rfl⟩
  case routed =>
    intro log i gateway order reply hmem
    obtain ⟨request, p, client, hparty, hloaded, hpayment, hown, hgateway, hclient⟩ :=
      Party.routed_of_pay desk parties moves hmem
    rw [hregistry] at hclient
    have hchosen := hfound.1 hclient
    exact ⟨request, p, client, hparty, hloaded, hpayment, hown, hgateway, hchosen.provider,
      hown ▸ hchosen⟩

open scoped Trial

/-- A default client, two clients for one tenant and one for another tenant of nearly its name, each
with a gateway of its own. -/
def Registry.Call.crowd : List (Registry.Call (Fin 4)) :=
  [.registerFor "shop" ⟨.paypal, some 0⟩, .register ⟨.paypal, some 1⟩,
    .registerFor "Shop" ⟨.paypal, some 2⟩, .registerFor "shop" ⟨.paypal, some 3⟩]

/-- A desk with these clients. -/
def Desk.crowded : Desk (Fin 4) Empty where
  registry := Registry.after Registry.Call.crowd
  listeners := []
  publishTimeoutMillis := 0

/-- A payment of the tenant is made, started, completed and refunded: the order goes to the gateway
of the second of its own clients. -/
theorem routed_as_registered_crowd :
    let moves := ([0, 0, 0, 1, 1, 1, 2, 2, 2, 3, 3] : List (Fin 4)).map fun j =>
      Move.step j ⟨default, .first, .ok (.approved none), .accepted⟩
    let log := (Floor.play (fun j => (Party.sequence j).workflow Desk.crowded) moves).log
    (((stepsOf 3 log).filterMap Act.ordered).map fun order => order.1) = [3] ∧
      ∃ p client, client.gateway = some 3 ∧ client.provider = p ∧
        Registry.Chosen Registry.Call.crowd "shop" p client := by
  intro moves log
  have hasked : (((stepsOf 3 log).filterMap Act.ordered).map fun order => order.1) = [3] := by
    decide +kernel
  obtain ⟨order, hordered, hgateway⟩ := List.mem_map.1 (hasked ▸ List.mem_singleton_self _)
  obtain ⟨a, hmem, ha⟩ := List.mem_filterMap.1 hordered
  cases a with
  | pay gateway order reply =>
    cases ha
    obtain ⟨-, -, -, -, -, -, -, hrouted⟩ :=
      routed_as_registered (ι := Fin 4) (π := Empty) Registry.Call.crowd
    obtain ⟨request, p, client, hparty, -, -, -, hclient, hprovider, hchosen⟩ :=
      hrouted Desk.crowded Party.sequence moves rfl 3 gateway order reply (mem_stepsOf.1 hmem)
    obtain rfl : gateway = 3 := hgateway
    injection hparty with hcall
    injection hcall with hrequest
    subst hrequest
    exact ⟨hasked, p.provider, client, hclient, hprovider, hchosen⟩
  | _ => cases ha

end Paydesk
