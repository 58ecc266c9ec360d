import Paydesk.Proofs.Service.Decision
import Paydesk.Proofs.Service.Errand
import Paydesk.Proofs.Service.Publication

/-!
# Whose payments the errands are about

In a run of errands of any tenants, every payment has a name that was drawn for its tenant, and nobody
stores, pays back or tells of the payment of another tenant.

1. What a call stores, pays back or tells of has a name that the call has drawn, or that of a payment
   of its tenant that it has found (`Course.knows_of_trail`).
2. What is stored or found has a name that was drawn for its tenant (`namedFor_of_play`): it was
   stored by an errand of that tenant, which knew the name.
3. So has whatever an errand is about (`Errand.Serves.namedFor`).
-/

namespace Paydesk

variable {ι γ π α β : Type}

/-! ## What a call knows -/

/-- The name was drawn, or a payment of the tenant was found under it. -/
def Knows (tenant : String) (acts : List (Act γ π)) (id : PaymentId) : Prop :=
  .freshId id ∈ acts ∨ ∃ p, .find id (some p) ∈ acts ∧ p.tenant = tenant

theorem Knows.mono {tenant : String} {older acts : List (Act γ π)} {id : PaymentId}
    (h : Knows tenant older id) (hsub : older ⊆ acts) : Knows tenant acts id := by
  rcases h with hdrawn | ⟨p, hfound, hown⟩
  · exact .inl (hsub hdrawn)
  · exact .inr ⟨p, hsub hfound, hown⟩

theorem Desk.tenant_of_draft {tenant : String} {r : CreateRequest} {draft : Payment.Draft}
    (h : Desk.draft tenant r = .ok draft) : draft.tenant = tenant := by
  simp only [Desk.draft, bind, Except.bind] at h
  repeat' split at h
  all_goals cases h
  rfl

namespace Course

variable {desk : Desk γ π} {u : UseCase} {acts older : List (Act γ π)} {t : Stage π}

theorem Saves.knows {q : Payment} {receipt : Option Receipt} (h : Saves desk u older q receipt) :
    q.tenant = u.tenant ∧ Knows u.tenant older q.id := by
  have hcopy : ∀ {p : Payment} {c : Payment.Call} {plan : Option Payment.RefundPlan},
      Loaded u older p → p.tenant = u.tenant → c.Gives p q plan →
      q.tenant = u.tenant ∧ Knows u.tenant older q.id := by
    intro p c plan hloaded hown hgives
    have hsame := hgives.sameIdentity
    exact ⟨hsame.tenant.trans hown, .inr ⟨p, hsame.id ▸ hloaded.found, hown⟩⟩
  cases h with
  | create hcall hvalid _ hnamed hmade =>
    subst hcall hmade
    exact ⟨Desk.tenant_of_draft hvalid, .inl hnamed⟩
  | change hloaded hown _ _ hgives => exact hcopy hloaded hown hgives
  | refund hcall hgranted _ hgives =>
    obtain ⟨reply, hordered, -⟩ := hgranted
    subst hcall
    exact hcopy hordered.loaded hordered.own hgives

theorem knows_of_save (h : Trail (Step desk) (.idle u) acts t) {q : Payment}
    {version : Except Conflict Nat} (hmem : .save q version ∈ acts) :
    q.tenant = u.tenant ∧ Knows u.tenant acts q.id := by
  obtain ⟨newer, older, rfl⟩ := List.append_of_mem hmem
  obtain ⟨receipt, hsaves, -⟩ := saves_of_trail h
  exact ⟨hsaves.knows.1, hsaves.knows.2.mono (by simp)⟩

/-- A call knows the name of whatever it stores, pays back or tells of. -/
theorem knows_of_trail (h : Trail (Step desk) (.idle u) acts t) {a : Act γ π} (hmem : a ∈ acts)
    {id : PaymentId} (habout : a.about = some id) : Knows u.tenant acts id := by
  cases a with
  | save q version =>
    obtain rfl := Option.some.inj habout
    exact (knows_of_save h hmem).2
  | pay gateway order reply =>
    obtain rfl := Option.some.inj habout
    obtain ⟨newer, older, rfl⟩ := List.append_of_mem hmem
    obtain ⟨s, s', holder, hpay, -⟩ := h.of_append_cons
    have hbacked := backed_of_trail holder
    cases hpay with
    | pay hown _ =>
      obtain ⟨rfl, hloaded⟩ := hbacked
      have hknows : Knows (UseCase.refund _).tenant older _ := .inr ⟨_, hloaded.found, hown⟩
      exact hknows.mono (by simp)
  | offer listener event delivery =>
    obtain rfl := Option.some.inj habout
    obtain ⟨newer, older, rfl⟩ := List.append_of_mem hmem
    obtain ⟨q, version, hold, hevent⟩ := exists_save_of_offer h
    have hsaved : .save q (.ok version) ∈ newer ++ .offer listener event delivery :: older :=
      List.mem_append_right _ (List.mem_cons_of_mem _ hold)
    obtain ⟨_, _, hsaves⟩ := exists_saves h hsaved
    have hid : event.payment = q.id := by
      rcases hsaves.events with hnone | ⟨event', hone, hid, -⟩
      · rw [hnone] at hevent
        exact absurd hevent List.not_mem_nil
      · rw [hone, List.mem_singleton] at hevent
        rw [hevent, hid]
    exact hid ▸ (knows_of_save h hsaved).2
  | _ => cases habout

end Course

/-! ## Errands among others -/

/-- The use case does an errand of the tenant and makes something of the reply, or has nothing to
do. -/
inductive Errand.Serves (desk : Desk γ π) : Option String → Workflow γ π α → Prop
  | errand (e : Errand) (conclude : Reply → α) :
      Serves desk (some e.tenant) ((e.workflow desk).bind fun reply => .done (conclude reply))
  | atOnce (tenant : Option String) (a : α) : Serves desk tenant (.done a)

theorem Errand.Serves.conclude {desk : Desk γ π} {owner : Option String} {w : Workflow γ π α}
    (h : Errand.Serves desk owner w) (f : α → β) :
    Errand.Serves desk owner (w.bind fun a => .done (f a)) := by
  cases h with
  | errand e conclude =>
    rw [Workflow.bind_assoc]
    exact .errand e fun reply => f (conclude reply)
  | atOnce owner a => exact .atOnce owner (f a)

section Runs

variable [DecidableEq ι] {desk : Desk γ π} {start : ι → Workflow γ π α}

/-- Whoever serves a tenant follows the course of a call of that tenant, or does nothing that is about
a payment. -/
theorem Errand.Serves.cases {tenant : Option String} {i : ι}
    (h : Errand.Serves desk tenant (start i)) (moves : List (Move ι)) :
    (∃ u t, tenant = some u.tenant ∧
        Trail (Course.Step desk) (.idle u) (stepsOf i (Floor.play start moves).log) t ∧
        ∀ a, (Floor.play start moves).running i = .done a → ∃ answer, Course.Ends desk t answer) ∨
      ∀ a ∈ stepsOf i (Floor.play start moves).log, a.about = none := by
  have hreading : (∃ post, (start i).Keeps Errand.Reading post ()) →
      ∀ a ∈ stepsOf i (Floor.play start moves).log, a.about = none := by
    rintro ⟨post, hkeeps⟩
    obtain ⟨t, htrail, -⟩ := exists_trail_play start hkeeps moves
    generalize stepsOf i (Floor.play start moves).log = acts at htrail ⊢
    induction htrail with
    | nil => exact fun a ha => absurd ha List.not_mem_nil
    | step _ hpermitted ih => exact List.forall_mem_cons.2 ⟨hpermitted, ih⟩
  generalize hstart : start i = w at h
  cases h with
  | atOnce _ a =>
    refine .inr (hreading ⟨fun _ _ => True, ?_⟩)
    rw [hstart]
    exact Workflow.keeps_done.2 trivial
  | errand e conclude =>
    cases hquery : e.isQuery with
    | true =>
      refine .inr (hreading ⟨fun _ _ => True, ?_⟩)
      rw [hstart]
      exact keeps_bind (e.keeps_reading desk hquery) fun _ _ _ => trivial
    | false =>
      obtain ⟨u, rfl⟩ := Errand.eq_command_of_isQuery hquery
      obtain ⟨t, htrail, hend⟩ := Errand.exists_trail desk u conclude hstart moves
      refine .inl ⟨u, t, rfl, htrail, fun a ha => ?_⟩
      obtain ⟨answer, hends, -⟩ := hend a ha
      exact ⟨answer, hends⟩

theorem Act.offered_eq_none_of_about {a : Act γ π} (h : a.about = none) : a.offered = none := by
  cases a with
  | offer listener event delivery => cases h
  | _ => rfl

/-- Whoever is done has offered what it has recorded. -/
theorem Errand.Serves.offeredBy_of_done {tenant : Option String} {i : ι}
    (h : Errand.Serves desk tenant (start i)) {moves : List (Move ι)}
    {behaves : π → Event → Delivery} (hanswered : AnsweredBy behaves (Floor.play start moves).log)
    {a : α} (hdone : (Floor.play start moves).running i = .done a) :
    offeredBy i (Floor.play start moves).log = rounds behaves desk.listeners
      ((storedBy i (Floor.play start moves).log).reverse.flatMap Payment.events) := by
  rcases h.cases moves with ⟨u, t, -, htrail, hend⟩ | hnothing
  · obtain ⟨answer, hends⟩ := hend a hdone
    refine Course.offers_of_ends htrail hends fun listener event delivery hmem => ?_
    rw [hanswered i listener event delivery (mem_stepsOf.1 hmem)]
  · have hoffered : (stepsOf i (Floor.play start moves).log).filterMap Act.offered = [] :=
      List.filterMap_eq_nil_iff.2 fun a ha => Act.offered_eq_none_of_about (hnothing a ha)
    have hstored : storedBy i (Floor.play start moves).log = [] :=
      List.filterMap_eq_nil_iff.2 fun a ha => Act.stored_eq_none_of_about (hnothing a ha)
    rw [offeredBy, hoffered, hstored]
    rfl

/-- A request of the tenant has drawn the name. -/
def NamedFor (tenantOf : ι → Option String) (log : List (Entry ι γ π)) (tenant : String)
    (id : PaymentId) : Prop :=
  ∃ i, tenantOf i = some tenant ∧ .act i (.freshId id) ∈ log

omit [DecidableEq ι] in
theorem NamedFor.mono {tenantOf : ι → Option String} {earlier log : List (Entry ι γ π)}
    {tenant : String} {id : PaymentId} (h : NamedFor tenantOf earlier tenant id)
    (hsub : earlier ⊆ log) : NamedFor tenantOf log tenant id := by
  obtain ⟨i, hi, hmem⟩ := h
  exact ⟨i, hi, hsub hmem⟩

variable {tenantOf : ι → Option String}

theorem Errand.Serves.tenant_of_save {i : ι} (h : Errand.Serves desk (tenantOf i) (start i))
    (moves : List (Move ι)) {q : Payment} {version : Except Conflict Nat}
    (hmem : .act i (.save q version) ∈ (Floor.play start moves).log) :
    tenantOf i = some q.tenant := by
  rcases h.cases moves with ⟨u, t, htenant, htrail, -⟩ | hnothing
  · rw [htenant, (Course.knows_of_save htrail (mem_stepsOf.2 hmem)).1]
  · cases hnothing _ (mem_stepsOf.2 hmem)

theorem Errand.Serves.namedFor_of_found {i : ι} (h : Errand.Serves desk (tenantOf i) (start i))
    (moves : List (Move ι))
    (hfound : ∀ id p, .act i (.find id (some p)) ∈ (Floor.play start moves).log →
      NamedFor tenantOf (Floor.play start moves).log p.tenant id)
    {a : Act γ π} (hmem : .act i a ∈ (Floor.play start moves).log) {id : PaymentId}
    (habout : a.about = some id) :
    ∃ tenant, tenantOf i = some tenant ∧
      NamedFor tenantOf (Floor.play start moves).log tenant id := by
  rcases h.cases moves with ⟨u, t, htenant, htrail, -⟩ | hnothing
  · refine ⟨u.tenant, htenant, ?_⟩
    rcases Course.knows_of_trail htrail (mem_stepsOf.2 hmem) habout with hdrawn | ⟨p, hp, hown⟩
    · exact ⟨i, htenant, mem_stepsOf.1 hdrawn⟩
    · exact hown ▸ hfound id p (mem_stepsOf.1 hp)
  · rw [hnothing a (mem_stepsOf.2 hmem)] at habout
    cases habout

/-- What is stored or found has a name that was drawn for its tenant. -/
theorem namedFor_of_play (h : ∀ i, Errand.Serves desk (tenantOf i) (start i))
    (moves : List (Move ι)) :
    (∀ id p, (Floor.play start moves).store.find? id = some p →
      NamedFor tenantOf (Floor.play start moves).log p.tenant id) ∧
    ∀ i id p, .act i (.find id (some p)) ∈ (Floor.play start moves).log →
      NamedFor tenantOf (Floor.play start moves).log p.tenant id := by
  -- what is found was stored, and what is stored was found or drawn by the one who saved it
  induction moves using List.reverseRecOn with
  | nil =>
    refine ⟨fun id p hp => ?_, fun i id p hmem => absurd hmem List.not_mem_nil⟩
    have hnone : (none : Option Payment) = some p := hp
    cases hnone
  | append_singleton moves m ih =>
    have hserves := fun i => (h i).namedFor_of_found (moves ++ [m])
    have hsaves : ∀ i q version, .act i (.save q version) ∈ (Floor.play start (moves ++ [m])).log →
        tenantOf i = some q.tenant := fun i _ _ => (h i).tenant_of_save _
    simp only [Floor.play_append_singleton] at hserves hsaves ⊢
    generalize Floor.play start moves = f at ih hserves hsaves ⊢
    obtain ⟨hstored, hfound⟩ := ih
    cases m with
    | delete other =>
      have hsub : f.log ⊆ (f.move (.delete other)).log := List.subset_cons_self _ _
      refine ⟨fun id p hp => (hstored id p ?_).mono hsub, fun i id p hmem => ?_⟩
      · rw [show (f.move (.delete other)).store = f.store.delete other from rfl,
          Store.find?_delete] at hp
        split at hp
        · cases hp
        · exact hp
      · exact (hfound i id p ((List.mem_cons.1 hmem).resolve_left nofun)).mono hsub
    | step i x =>
      cases hadvance : (f.running i).advance f.store x with
      | none =>
        rw [Floor.move_step_of_none hadvance]
        exact ⟨hstored, hfound⟩
      | some next =>
        obtain ⟨a, s, w⟩ := next
        obtain ⟨hfits, rfl⟩ := advance_fits hadvance
        rw [Floor.move_step_of_some hadvance] at hserves hsaves ⊢
        have hsub : f.log ⊆ .act i a :: f.log := List.subset_cons_self _ _
        have hfound' : ∀ j id p, .act j (.find id (some p)) ∈ .act i a :: f.log →
            NamedFor tenantOf (.act i a :: f.log) p.tenant id := by
          intro j id p hmem
          rcases List.mem_cons.1 hmem with heq | hold
          · cases heq
            exact (hstored id p hfits.symm).mono hsub
          · exact (hfound j id p hold).mono hsub
        refine ⟨fun id p hp => ?_, hfound'⟩
        change (a.apply f.store).find? id = some p at hp
        unfold Act.apply at hp
        split at hp
        · rename_i q version
          rw [Store.find?_insert] at hp
          split at hp
          · rename_i hid
            obtain rfl := Option.some.inj hp
            obtain ⟨tenant, htenant, hnamed⟩ := hserves i (hfound' i) List.mem_cons_self rfl
            have hown := (hsaves i q _ List.mem_cons_self).symm.trans htenant
            exact hid ▸ Option.some.inj hown ▸ hnamed
          · exact (hstored id p hp).mono hsub
        · exact (hstored id p hp).mono hsub

theorem Errand.Serves.namedFor (h : ∀ i, Errand.Serves desk (tenantOf i) (start i))
    (moves : List (Move ι)) {i : ι} {a : Act γ π} (hmem : .act i a ∈ (Floor.play start moves).log) {id : PaymentId}
    (habout : a.about = some id) :
    ∃ tenant, tenantOf i = some tenant ∧
      NamedFor tenantOf (Floor.play start moves).log tenant id :=
  (h i).namedFor_of_found moves ((namedFor_of_play h moves).2 i) hmem habout

/-! ## Names of one tenant -/

/-- The names that were drawn for the tenant were drawn for nobody else. -/
def NamesApart (tenantOf : ι → Option String) (tenant : String) (log : List (Entry ι γ π)) : Prop :=
  ∀ i j id, tenantOf i = some tenant → .act i (.freshId id) ∈ log → .act j (.freshId id) ∈ log →
    tenantOf j = some tenant

omit [DecidableEq ι] in
theorem NamedFor.eq {log : List (Entry ι γ π)} {tenant other : String} {id : PaymentId}
    (hapart : NamesApart tenantOf tenant log) (h : NamedFor tenantOf log tenant id)
    (h' : NamedFor tenantOf log other id) : other = tenant := by
  obtain ⟨i, hi, hdrawn⟩ := h
  obtain ⟨j, hj, hdrawn'⟩ := h'
  exact Option.some.inj (hj.symm.trans (hapart i j id hi hdrawn hdrawn'))

end Runs

end Paydesk
