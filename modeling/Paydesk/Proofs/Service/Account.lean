import Paydesk.Proofs.Service.Course
import Paydesk.Proofs.Service.Trail

/-!
# What a call has done so far

The stage of a call tells what it has done: whatever a stage holds stems from a step that the call has
taken (`Stage.Backed`, `backed_of_trail`). So every save can be traced back to the request, the
payment that was loaded and the time that was read (`saves_of_trail`), and a call loads, orders and
stores once at most (`lookups_le_one`, `orders_le_one`, `stored_of_trail`).
-/

namespace Paydesk

variable {γ π σ β : Type}

/-- Steps of a kind of which the first leads to stages in which there is no other are taken once at
most, and not at all before such a stage. -/
theorem Trail.once {δ : Protocol γ π σ} {s t : σ} {acts : List (Act γ π)} {P : σ → Prop}
    (h : Trail δ s acts t) (kind : Act γ π → Option β)
    (hfirst : ∀ s a t, δ s a t → kind a ≠ none → ¬ P s ∧ P t)
    (hstay : ∀ s a t, δ s a t → P s → P t) :
    (acts.filterMap kind).length ≤ 1 ∧ (¬ P t → acts.filterMap kind = []) := by
  induction h with
  | nil => exact ⟨Nat.zero_le _, fun _ => rfl⟩
  | @step acts t u a _ hpermitted ih =>
    cases hkind : kind a with
    | none =>
      rw [List.filterMap_cons_none hkind]
      exact ⟨ih.1, fun hu => ih.2 fun ht => hu (hstay _ _ _ hpermitted ht)⟩
    | some b =>
      obtain ⟨hbefore, hafter⟩ := hfirst _ _ _ hpermitted (by simp [hkind])
      rw [List.filterMap_cons_some hkind, ih.2 hbefore]
      exact ⟨Nat.le_refl 1, fun hu => absurd hafter hu⟩

theorem eq_of_length_filterMap_le_one {acts : List (Act γ π)} {kind : Act γ π → Option β}
    (h : (acts.filterMap kind).length ≤ 1) {a a' : Act γ π} {b b' : β} (ha : a ∈ acts)
    (ha' : a' ∈ acts) (hb : kind a = some b) (hb' : kind a' = some b') : b = b' := by
  have hmem : b ∈ acts.filterMap kind := List.mem_filterMap.2 ⟨a, ha, hb⟩
  have hmem' : b' ∈ acts.filterMap kind := List.mem_filterMap.2 ⟨a', ha', hb'⟩
  obtain ⟨one, hlist⟩ := List.length_eq_one_iff.1 (le_antisymm h (List.length_pos_of_mem hmem))
  rw [hlist, List.mem_singleton] at hmem hmem'
  rw [hmem, hmem']

namespace Course

variable {desk : Desk γ π} {u : UseCase} {acts older newer : List (Act γ π)} {s t : Stage π}

/-! ## What stands behind a stage -/

/-- The payment was loaded for the call. -/
structure Loaded (u : UseCase) (acts : List (Act γ π)) (p : Payment) : Prop where
  target : u.target = some p.id
  quiet : p.events = []
  found : Act.find p.id (some p) ∈ acts

/-- The refund was ordered for the payment that was loaded, and this is the answer. -/
structure Ordered (desk : Desk γ π) (r : RefundRequest) (acts : List (Act γ π)) (p : Payment)
    (plan : Payment.RefundPlan) (reply : Except GatewayError RefundReply) : Prop where
  loaded : Loaded (.refund r) acts p
  own : p.tenant = r.tenant
  paid : ∃ gateway, desk.Prepares r p plan gateway ∧ .pay gateway (r.order p plan) reply ∈ acts

/-- The order of the refund was approved. -/
def Granted (desk : Desk γ π) (r : RefundRequest) (acts : List (Act γ π)) (p : Payment)
    (receipt : Receipt) : Prop :=
  ∃ reply, Ordered desk r acts p receipt.plan (.ok reply) ∧ reply.isApproved = true ∧
    reply.raw = receipt.raw

theorem Loaded.mono {p : Payment} (h : Loaded u older p) (hsub : older ⊆ acts) :
    Loaded u acts p :=
  { h with found := hsub h.found }

theorem Ordered.mono {r : RefundRequest} {p : Payment} {plan : Payment.RefundPlan}
    {reply : Except GatewayError RefundReply} (h : Ordered desk r older p plan reply)
    (hsub : older ⊆ acts) : Ordered desk r acts p plan reply := by
  obtain ⟨gateway, hprepares, hmem⟩ := h.paid
  exact ⟨h.loaded.mono hsub, h.own, gateway, hprepares, hsub hmem⟩

theorem Granted.mono {r : RefundRequest} {p : Payment} {receipt : Receipt}
    (h : Granted desk r older p receipt) (hsub : older ⊆ acts) : Granted desk r acts p receipt := by
  obtain ⟨reply, hordered, happroved⟩ := h
  exact ⟨reply, hordered.mono hsub, happroved⟩

/-- What a stage of a call holds stems from its steps. -/
def Stage.Backed (desk : Desk γ π) (u : UseCase) (acts : List (Act γ π)) : Stage π → Prop
  | .idle u' => u' = u
  | .drafted draft now =>
    (∃ tenant r, u = .create tenant r ∧ Desk.draft tenant r = .ok draft) ∧ .clock now ∈ acts
  | .named draft now id =>
    (∃ tenant r, u = .create tenant r ∧ Desk.draft tenant r = .ok draft) ∧ .clock now ∈ acts ∧
      .freshId id ∈ acts
  | .missed => ∃ id, u.target = some id ∧ .find id none ∈ acts
  | .held u' p => u' = u ∧ Loaded u acts p
  | .timed u' p now => u' = u ∧ Loaded u acts p ∧ p.tenant = u.tenant ∧ .clock now ∈ acts
  | .answered r p plan reply => u = .refund r ∧ Ordered desk r acts p plan reply
  | .granted r p receipt now => u = .refund r ∧ Granted desk r acts p receipt ∧ .clock now ∈ acts
  | .refused q why => .save q (.error why) ∈ acts
  | .telling q _ _ => ∃ p version, q = p.withVersion version ∧ .save p (.ok version) ∈ acts

theorem Stage.backed_saved (desk : Desk γ π) (u : UseCase) (acts : List (Act γ π))
    (listeners : List π) (q : Payment) (receipt : Option Receipt) (version : Except Conflict Nat) :
    (Stage.saved listeners q receipt version).Backed desk u (.save q version :: acts) := by
  cases version with
  | ok version => exact ⟨q, version, rfl, List.mem_cons_self⟩
  | error why => exact List.mem_cons_self

theorem Stage.Backed.cons (h : s.Backed desk u acts) (a : Act γ π) :
    s.Backed desk u (a :: acts) := by
  have hsub : acts ⊆ a :: acts := List.subset_cons_self a acts
  cases s with
  | idle u' => exact h
  | drafted draft now => exact ⟨h.1, hsub h.2⟩
  | named draft now id => exact ⟨h.1, hsub h.2.1, hsub h.2.2⟩
  | missed =>
    obtain ⟨id, htarget, hfound⟩ := h
    exact ⟨id, htarget, hsub hfound⟩
  | held u' p => exact ⟨h.1, h.2.mono hsub⟩
  | timed u' p now => exact ⟨h.1, h.2.1.mono hsub, h.2.2.1, hsub h.2.2.2⟩
  | answered r p plan reply => exact ⟨h.1, h.2.mono hsub⟩
  | granted r p receipt now => exact ⟨h.1, h.2.1.mono hsub, hsub h.2.2⟩
  | refused q why => exact hsub h
  | telling q receipt agenda =>
    obtain ⟨p, version, hq, hsaved⟩ := h
    exact ⟨p, version, hq, hsub hsaved⟩

theorem Step.backed {a : Act γ π} (h : Step desk s a t) (hs : s.Backed desk u acts) :
    t.Backed desk u (a :: acts) := by
  cases h with
  | warn => exact hs.cons _
  | draft hvalid =>
    obtain rfl := hs
    exact ⟨⟨_, _, rfl, hvalid⟩, List.mem_cons_self⟩
  | draw => exact ⟨hs.1, List.mem_cons_of_mem _ hs.2, List.mem_cons_self⟩
  | create => exact Stage.backed_saved desk u acts _ _ _ _
  | miss htarget =>
    obtain rfl := hs
    exact ⟨_, htarget, List.mem_cons_self⟩
  | load htarget hquiet =>
    obtain rfl := hs
    exact ⟨rfl, htarget, hquiet, List.mem_cons_self⟩
  | time hown _ =>
    obtain ⟨rfl, hloaded⟩ := hs
    exact ⟨rfl, hloaded.mono (List.subset_cons_self _ _), hown, List.mem_cons_self⟩
  | change _ _ => exact Stage.backed_saved desk u acts _ _ _ _
  | pay hown hprepares =>
    obtain ⟨rfl, hloaded⟩ := hs
    exact ⟨rfl, hloaded.mono (List.subset_cons_self _ _), hown, _, hprepares, List.mem_cons_self⟩
  | @grant r p plan reply now hgiven =>
    obtain ⟨rfl, hordered⟩ := hs
    exact ⟨rfl, ⟨reply, hordered.mono (List.subset_cons_self _ _), hgiven, rfl⟩,
      List.mem_cons_self⟩
  | refund _ => exact Stage.backed_saved desk u acts _ _ _ _
  | offer =>
    obtain ⟨p, version, hq, hsaved⟩ := hs
    exact ⟨p, version, hq, List.mem_cons_of_mem _ hsaved⟩

theorem backed_of_trail (h : Trail (Step desk) (.idle u) acts t) : t.Backed desk u acts := by
  induction h with
  | nil => exact (rfl : u = u)
  | step _ hpermitted ih => exact hpermitted.backed ih

/-! ## Where a save comes from -/

/-- What a call saves, from what it has done before. -/
inductive Saves (desk : Desk γ π) (u : UseCase) (older : List (Act γ π)) (q : Payment) :
    Option Receipt → Prop
  | create {tenant : String} {r : CreateRequest} {draft : Payment.Draft} {now : Instant}
      {id : PaymentId} (call : u = .create tenant r) (valid : Desk.draft tenant r = .ok draft)
      (dated : .clock now ∈ older) (named : .freshId id ∈ older)
      (made : q = Payment.create id now draft) : Saves desk u older q none
  | change {p : Payment} {now : Instant} {c : Payment.Call} (loaded : Loaded u older p)
      (own : p.tenant = u.tenant) (dated : .clock now ∈ older) (command : u.command now = some c)
      (gives : c.Gives p q none) : Saves desk u older q none
  | refund {r : RefundRequest} {p : Payment} {receipt : Receipt} {now : Instant}
      (call : u = .refund r) (granted : Granted desk r older p receipt) (dated : .clock now ∈ older)
      (gives : Payment.Call.Gives p (.refund now (some receipt.plan.amount) r.reason) q
        (some receipt.plan)) : Saves desk u older q (some receipt)

theorem Saves.id_eq {q : Payment} {receipt : Option Receipt} {id : PaymentId}
    (h : Saves desk u older q receipt) (htarget : u.target = some id) : q.id = id := by
  have hloaded : ∀ {p : Payment}, Loaded u older p → p.id = id := fun hloaded =>
    Option.some.inj (hloaded.target.symm.trans htarget)
  cases h with
  | create hcall =>
    subst hcall
    cases htarget
  | change h _ _ _ hgives => exact hgives.sameIdentity.id.trans (hloaded h)
  | refund hcall hgranted _ hgives =>
    obtain ⟨reply, hordered, -⟩ := hgranted
    exact hgives.sameIdentity.id.trans (hloaded (hcall ▸ hordered.loaded))

theorem saves_of_step {q : Payment} {version : Except Conflict Nat}
    (h : Step desk s (.save q version) t) (hs : s.Backed desk u older) :
    ∃ receipt, t = .saved desk.listeners q receipt version ∧ Saves desk u older q receipt := by
  cases h with
  | create =>
    obtain ⟨⟨tenant, r, hcall, hvalid⟩, hdated, hnamed⟩ := hs
    exact ⟨none, rfl, .create hcall hvalid hdated hnamed rfl⟩
  | change hcommand hgives =>
    obtain ⟨rfl, hloaded, hown, hdated⟩ := hs
    exact ⟨none, rfl, .change hloaded hown hdated hcommand hgives⟩
  | refund hgives =>
    obtain ⟨hcall, hgranted, hdated⟩ := hs
    exact ⟨_, rfl, .refund hcall hgranted hdated hgives⟩

/-- Every save can be traced back to what the call has done before. -/
theorem saves_of_trail {q : Payment} {version : Except Conflict Nat}
    (h : Trail (Step desk) (.idle u) (newer ++ .save q version :: older) t) :
    ∃ receipt, Saves desk u older q receipt ∧
      Trail (Step desk) (.saved desk.listeners q receipt version) newer t := by
  obtain ⟨m, m', holder, hpermitted, hnewer⟩ := h.of_append_cons
  obtain ⟨receipt, rfl, hsaves⟩ := saves_of_step hpermitted (backed_of_trail holder)
  exact ⟨receipt, hsaves, hnewer⟩

theorem exists_saves (h : Trail (Step desk) (.idle u) acts t) {q : Payment}
    {version : Except Conflict Nat} (hmem : .save q version ∈ acts) :
    ∃ older receipt, Saves desk u older q receipt := by
  obtain ⟨newer, older, rfl⟩ := List.append_of_mem hmem
  obtain ⟨receipt, hsaves, -⟩ := saves_of_trail h
  exact ⟨older, receipt, hsaves⟩

/-- What is looked for is the payment that the call is about. -/
theorem target_of_find (h : Trail (Step desk) (.idle u) acts t) {id : PaymentId}
    {found : Option Payment} (hmem : .find id found ∈ acts) : u.target = some id := by
  obtain ⟨newer, older, rfl⟩ := List.append_of_mem hmem
  obtain ⟨s, s', holder, hfind, -⟩ := h.of_append_cons
  have hbacked := backed_of_trail holder
  cases hfind with
  | miss htarget => exact (show _ = u from hbacked) ▸ htarget
  | load htarget _ => exact (show _ = u from hbacked) ▸ htarget

theorem telling_of_trail {q : Payment} {receipt : Option Receipt} {agenda : Agenda π}
    (h : Trail (Step desk) (.telling q receipt agenda) acts t) :
    ∃ agenda', t = .telling q receipt agenda' := by
  refine h.always (P := fun s => ∃ agenda', s = .telling q receipt agenda') ⟨agenda, rfl⟩ ?_
  rintro s a s' ⟨agenda', rfl⟩ hstep
  cases hstep with
  | warn => exact ⟨agenda', rfl⟩
  | offer => exact ⟨_, rfl⟩

/-! ## What a call does once at most -/

/-- The steps of a call in order: look for the payment, ask a gateway, save. -/
def Stage.phase : Stage π → Nat
  | .idle _ | .drafted _ _ | .named _ _ _ => 0
  | .missed | .held _ _ | .timed _ _ _ => 1
  | .answered _ _ _ _ | .granted _ _ _ _ => 2
  | .refused _ _ | .telling _ _ _ => 3

theorem Stage.phase_saved (listeners : List π) (q : Payment) (receipt : Option Receipt)
    (version : Except Conflict Nat) : (Stage.saved listeners q receipt version).phase = 3 := by
  cases version <;> rfl

theorem Step.phase_le {a : Act γ π} (h : Step desk s a t) : s.phase ≤ t.phase := by
  cases h with
  | create => exact Nat.zero_le _
  | change _ _ =>
    rw [Stage.phase_saved]
    exact Nat.le_of_ble_eq_true rfl
  | refund _ =>
    rw [Stage.phase_saved]
    exact Nat.le_of_ble_eq_true rfl
  | _ => simp [Stage.phase]

/-- What was stored. -/
def Stage.stored : Stage π → List Payment
  | .telling q _ _ => [q]
  | _ => []

theorem Step.stored_ne_nil {a : Act γ π} (h : Step desk s a t) (hs : s.stored ≠ []) :
    t.stored ≠ [] := by
  cases h with
  | warn => exact hs
  | offer => exact hs
  | _ => exact absurd rfl hs

end Course

/-- The payment that a step has looked for, and what was found. -/
def Act.lookup : Act γ π → Option (PaymentId × Option Payment)
  | .find id found => some (id, found)
  | _ => none

/-- The order of a step to a gateway, and the answer. -/
def Act.ordered : Act γ π → Option (γ × RefundOrder × Except GatewayError RefundReply)
  | .pay gateway order reply => some (gateway, order, reply)
  | _ => none

/-- The payment that a step would save, and what became of it. -/
def Act.saving : Act γ π → Option (Payment × Except Conflict Nat)
  | .save q version => some (q, version)
  | _ => none

namespace Course

variable {desk : Desk γ π} {u : UseCase} {acts older newer : List (Act γ π)} {t : Stage π}

theorem lookups_le_one (h : Trail (Step desk) (.idle u) acts t) :
    (acts.filterMap Act.lookup).length ≤ 1 := by
  refine (h.once Act.lookup (P := fun s => 1 ≤ s.phase) (fun s a t hstep hkind => ?_)
    fun s a t hstep hs => hs.trans hstep.phase_le).1
  cases hstep with
  | miss _ => simp [Stage.phase]
  | load _ _ => simp [Stage.phase]
  | _ => exact absurd rfl hkind

theorem orders_le_one (h : Trail (Step desk) (.idle u) acts t) :
    (acts.filterMap Act.ordered).length ≤ 1 ∧
      (t.phase < 2 → acts.filterMap Act.ordered = []) := by
  have honce := h.once Act.ordered (P := fun s => 2 ≤ s.phase)
    (fun s a t hstep hkind => ?_) fun s a t hstep hs => hs.trans hstep.phase_le
  · exact ⟨honce.1, fun ht => honce.2 (by omega)⟩
  · cases hstep with
    | pay _ _ => simp [Stage.phase]
    | _ => exact absurd rfl hkind

theorem saves_le_one (h : Trail (Step desk) (.idle u) acts t) :
    (acts.filterMap Act.saving).length ≤ 1 := by
  refine (h.once Act.saving (P := fun s => 3 ≤ s.phase) (fun s a t hstep hkind => ?_)
    fun s a t hstep hs => hs.trans hstep.phase_le).1
  cases hstep with
  | create => exact ⟨by simp [Stage.phase], (Stage.phase_saved _ _ _ _).ge⟩
  | change _ _ => exact ⟨by simp [Stage.phase], (Stage.phase_saved _ _ _ _).ge⟩
  | refund _ => exact ⟨by simp [Stage.phase], (Stage.phase_saved _ _ _ _).ge⟩
  | _ => exact absurd rfl hkind

theorem not_mem_save {q q' : Payment} {version version' : Except Conflict Nat}
    (h : Trail (Step desk) (.idle u) (newer ++ .save q version :: older) t) :
    .save q' version' ∉ older := by
  intro hmem
  have hone := saves_le_one h
  have hsaving : (q', version') ∈ older.filterMap Act.saving :=
    List.mem_filterMap.2 ⟨_, hmem, rfl⟩
  have hpos := List.length_pos_of_mem hsaving
  have hlist : (Act.save q version :: older : List (Act γ π)).filterMap Act.saving =
      (q, version) :: older.filterMap Act.saving := rfl
  rw [List.filterMap_append, hlist, List.length_append, List.length_cons] at hone
  omega

/-- A call has stored what its last stage says, and nothing else. -/
theorem stored_of_trail (h : Trail (Step desk) (.idle u) acts t) :
    acts.filterMap Act.stored = t.stored := by
  have honce := h.once Act.stored (P := fun s => s.stored ≠ [])
    (fun s a t hstep hkind => ?_) fun s a t hstep hs => hstep.stored_ne_nil hs
  · have hbacked := backed_of_trail h
    cases t with
    | telling q receipt agenda =>
      obtain ⟨p, version, rfl, hsaved⟩ := hbacked
      have hmem : p.withVersion version ∈ acts.filterMap Act.stored :=
        List.mem_filterMap.2 ⟨_, hsaved, rfl⟩
      obtain ⟨q, hq⟩ := List.length_eq_one_iff.1
        (le_antisymm honce.1 (List.length_pos_of_mem hmem))
      rw [hq] at hmem ⊢
      rw [← List.mem_singleton.1 hmem]
      rfl
    | _ => exact honce.2 (by simp [Stage.stored])
  · have hsaved : ∀ {q receipt version}, Act.stored (.save q version : Act γ π) ≠ none →
        (Stage.saved desk.listeners q receipt version).stored ≠ [] := by
      intro q receipt version hkind
      cases version with
      | ok version => simp [Stage.saved, Stage.stored]
      | error why => exact absurd rfl hkind
    cases hstep with
    | create => exact ⟨by simp [Stage.stored], hsaved hkind⟩
    | change _ _ => exact ⟨by simp [Stage.stored], hsaved hkind⟩
    | refund _ => exact ⟨by simp [Stage.stored], hsaved hkind⟩
    | _ => exact absurd rfl hkind

end Course

end Paydesk
