import Paydesk.Proofs.Service.Discreet
import Paydesk.Proofs.Service.Ownership
import Paydesk.Proofs.Store.Holdings

/-!
# Tenants do not see each other

Two runs in which the errands of one tenant are the same and take the same steps, whatever the others
are and do. The tenant cannot tell them apart (`Floor.Indistinct`).

1. A step of another tenant leaves the payments of this one alone (`Indistinct.foreign`).
2. A step of this tenant is answered in the same way in both runs (`Indistinct.both`): it loads
   payments of its own or none, lists its own, and saves over its own. Only listeners may answer in
   another way, and by then the result is settled (`Indistinct.aside`).
3. So the runs stay indistinct, by induction on what the schedules have in common
   (`indistinct_of_inStep`).
-/

namespace Paydesk

variable {ι γ π α : Type}

open Workflow (Alike)

/-! ## Schedules -/

/-- The steps of some participants: who, at which time, and with which new name. -/
def ownSteps (mine : ι → Prop) [DecidablePred mine] (steps : List (ι × Outside)) :
    List (ι × Instant × PaymentId) :=
  (steps.filter fun step => mine step.1).map fun step => (step.1, step.2.time, step.2.id)

/-- Schedules in which some participants take the same steps, and the others any. -/
inductive InStep (mine : ι → Prop) : List (ι × Outside) → List (ι × Outside) → Prop
  | nil : InStep mine [] []
  | left {steps steps' : List (ι × Outside)} {i : ι} {x : Outside} (h : InStep mine steps steps')
      (foreign : ¬ mine i) : InStep mine (steps ++ [(i, x)]) steps'
  | right {steps steps' : List (ι × Outside)} {i : ι} {x : Outside} (h : InStep mine steps steps')
      (foreign : ¬ mine i) : InStep mine steps (steps' ++ [(i, x)])
  | both {steps steps' : List (ι × Outside)} {i : ι} {x y : Outside} (h : InStep mine steps steps')
      (own : mine i) (time : x.time = y.time) (id : x.id = y.id) :
      InStep mine (steps ++ [(i, x)]) (steps' ++ [(i, y)])

section Schedules

variable {mine : ι → Prop} [DecidablePred mine] {steps steps' : List (ι × Outside)} {i : ι}
  {x : Outside}

theorem ownSteps_foreign (h : ¬ mine i) : ownSteps mine (steps ++ [(i, x)]) = ownSteps mine steps := by
  simp [ownSteps, h]

theorem ownSteps_own (h : mine i) :
    ownSteps mine (steps ++ [(i, x)]) = ownSteps mine steps ++ [(i, x.time, x.id)] := by
  simp [ownSteps, h]

theorem inStep_of_ownSteps (h : ownSteps mine steps = ownSteps mine steps') :
    InStep mine steps steps' := by
  induction steps using List.reverseRecOn generalizing steps' with
  | nil =>
    induction steps' using List.reverseRecOn with
    | nil => exact .nil
    | append_singleton steps' step ih =>
      obtain ⟨j, y⟩ := step
      by_cases hj : mine j
      · rw [ownSteps_own hj] at h
        simp [ownSteps] at h
      · rw [ownSteps_foreign hj] at h
        exact .right (ih h) hj
  | append_singleton steps step ih =>
    obtain ⟨i, x⟩ := step
    by_cases hi : mine i
    · -- the last own step of the second schedule is the same one
      induction steps' using List.reverseRecOn with
      | nil =>
        rw [ownSteps_own hi] at h
        simp [ownSteps] at h
      | append_singleton steps' step ih' =>
        obtain ⟨j, y⟩ := step
        by_cases hj : mine j
        · rw [ownSteps_own hi, ownSteps_own hj] at h
          obtain ⟨hrest, hlast⟩ := List.append_inj' h rfl
          obtain ⟨rfl, htime, hid⟩ : i = j ∧ x.time = y.time ∧ x.id = y.id := by simpa using hlast
          exact .both (ih hrest) hi htime hid
        · rw [ownSteps_foreign hj] at h
          exact .right (ih' h) hj
    · rw [ownSteps_foreign hi] at h
      exact .left (ih h) hi

end Schedules

/-! ## Deeds -/

/-- The entry is a save, or an order of a refund, by one of these. -/
def Entry.isDeedOf (mine : ι → Prop) [DecidablePred mine] : Entry ι γ π → Bool
  | .act i (.save _ _) => decide (mine i)
  | .act i (.pay _ _ _) => decide (mine i)
  | _ => false

/-- What these have saved, and ordered from gateways, with the answers. -/
def deeds (mine : ι → Prop) [DecidablePred mine] (log : List (Entry ι γ π)) : List (Entry ι γ π) :=
  log.filter (Entry.isDeedOf mine)

section Deeds

variable {mine : ι → Prop} [DecidablePred mine]

theorem deeds_cons (e : Entry ι γ π) (log : List (Entry ι γ π)) :
    deeds mine (e :: log) = deeds mine [e] ++ deeds mine log := by
  unfold deeds
  exact List.filter_append [e] log

theorem deeds_cons_of_false {e : Entry ι γ π} (h : e.isDeedOf mine = false)
    (log : List (Entry ι γ π)) : deeds mine (e :: log) = deeds mine log :=
  List.filter_cons_of_neg (by simp [h])

theorem Entry.isDeedOf_foreign {i : ι} (h : ¬ mine i) (a : Act γ π) :
    (Entry.act i a).isDeedOf mine = false := by
  cases a <;> simp [Entry.isDeedOf, h]

theorem Entry.isDeedOf_aside (i : ι) {a : Act γ π} (h : a.isAside = true) :
    (Entry.act i a).isDeedOf mine = false := by
  cases a <;> first | rfl | cases h

theorem Entry.filter_recorded (e : Entry ι γ π) :
    e.recorded.filter (fun r => mine r.1) = if e.isDeedOf mine then e.recorded else [] := by
  unfold Entry.recorded
  split
  · rename_i i q version
    by_cases hi : mine i <;> simp [Entry.isDeedOf, hi]
  · exact (ite_self _).symm

theorem recorded_deeds (log : List (Entry ι γ π)) :
    recorded (deeds mine log) = (recorded log).filter fun r => mine r.1 := by
  induction log with
  | nil => rfl
  | cons e log ih =>
    have hsplit : recorded (e :: log) = e.recorded ++ recorded log := List.flatMap_cons
    rw [hsplit, List.filter_append, ← ih, e.filter_recorded]
    cases he : e.isDeedOf mine with
    | true =>
      have hkeep : deeds mine (e :: log) = e :: deeds mine log := List.filter_cons_of_pos he
      rw [hkeep]
      exact List.flatMap_cons
    | false =>
      rw [deeds_cons_of_false he]
      rfl

theorem storedBy_deeds [DecidableEq ι] {i : ι} (hi : mine i) (log : List (Entry ι γ π)) :
    storedBy i (deeds mine log) = storedBy i log := by
  unfold storedBy stepsOf deeds
  rw [List.filterMap_filterMap, List.filterMap_filterMap, List.filterMap_filter]
  refine List.filterMap_congr fun e _ => ?_
  cases e with
  | delete id => exact ite_self _
  | act j a =>
    by_cases hij : j = i
    · subst hij
      rw [Entry.stepOf_act_self]
      cases a with
      | save q version => exact if_pos (decide_eq_true hi)
      | pay gateway order reply => exact ite_self _
      | _ => rfl
    · rw [Entry.stepOf_act_of_ne hij]
      exact ite_self _

end Deeds

/-! ## Runs that a tenant cannot tell apart -/

namespace Workflow

/-- The two use cases are at the same point, or both have only to tell of the same result. -/
inductive Level (tenant : String) : Workflow γ π α → Workflow γ π α → Prop
  | same {w : Workflow γ π α} (discreet : w.IsDiscreet tenant) : Level tenant w w
  | told {v w : Workflow γ π α} {a : α} (left : Alike v (.done a)) (right : Alike w (.done a)) :
      Level tenant v w

variable {tenant : String} {v w : Workflow γ π α} {a : α}

theorem Level.symm (h : Level tenant v w) : Level tenant w v := by
  cases h with
  | same hdiscreet => exact .same hdiscreet
  | told hleft hright => exact .told hright hleft

theorem Level.of_told (h : Level tenant v w) (hv : Alike v (.done a)) :
    ∃ b, Alike v (.done b) ∧ Alike w (.done b) := by
  cases h with
  | same _ => exact ⟨a, hv, hv⟩
  | told hleft hright => exact ⟨_, hleft, hright⟩

theorem Alike.isAside_of_advance (h : Alike v (.done a)) {s s' : Store} {x : Outside} {b : Act γ π}
    (hadvance : v.advance s x = some (b, s', w)) : b.isAside = true := by
  cases h with
  | done => cases hadvance
  | offerLeft _ =>
    cases hadvance
    rfl
  | warnLeft _ =>
    cases hadvance
    rfl

end Workflow

/-- Gateways have answered the orders of these so. -/
def PaidBy (pays : γ → RefundOrder → Except GatewayError RefundReply) (mine : ι → Prop)
    (log : List (Entry ι γ π)) : Prop :=
  ∀ i gateway order reply, mine i → .act i (.pay gateway order reply) ∈ log →
    reply = pays gateway order

/-- These save payments of the tenant, over payments of the tenant; and the others neither. -/
def SavedApart (tenant : String) (mine : ι → Prop) (s : Store) (log : List (Entry ι γ π)) : Prop :=
  ∀ i q version, .act i (.save q version) ∈ log →
    (q.tenant = tenant ↔ mine i) ∧ ∀ p, s.find? q.id = some p → (p.tenant = tenant ↔ mine i)

namespace Floor

/-- The tenant has the same payments on both floors, its errands are equally far, and they have done
the same. -/
structure Indistinct (tenant : String) (mine : ι → Prop) [DecidablePred mine]
    (f g : Floor ι γ π α) : Prop where
  holdings : f.store.holdings tenant = g.store.holdings tenant
  running : ∀ i, mine i → (f.running i).Level tenant (g.running i)
  deeds : deeds mine f.log = deeds mine g.log

namespace Indistinct

variable [DecidableEq ι] {tenant : String} {mine : ι → Prop} [DecidablePred mine]
  {f g : Floor ι γ π α} {i : ι} {x y : Outside}
  {pays : γ → RefundOrder → Except GatewayError RefundReply}

omit [DecidableEq ι] in
theorem symm (h : Indistinct tenant mine f g) : Indistinct tenant mine g f :=
  ⟨h.holdings.symm, fun i hi => (h.running i hi).symm, h.deeds.symm⟩

theorem mem_log_of_advance {a : Act γ π} {s : Store} {w : Workflow γ π α}
    (h : (f.running i).advance f.store x = some (a, s, w)) :
    .act i a ∈ (f.move (.step i x)).log := by
  rw [move_step_of_some h]
  exact List.mem_cons_self

theorem mem_log_of_save {q : Payment} {next : Except StoreError Payment → Workflow γ π α}
    (h : f.running i = .save q next) :
    .act i (.save q (f.store.nextVersion q)) ∈ (f.move (.step i x)).log := by
  cases hv : f.store.nextVersion q with
  | ok version => exact mem_log_of_advance (h ▸ advance_save_ok hv)
  | error why => exact mem_log_of_advance (h ▸ advance_save_error hv)

theorem mem_log_of_pay {gateway : γ} {order : RefundOrder}
    {next : Except GatewayError RefundReply → Workflow γ π α}
    (h : f.running i = .pay gateway order next) :
    .act i (.pay gateway order x.reply) ∈ (f.move (.step i x)).log := by
  have hadvance : (f.running i).advance f.store x =
      some (.pay gateway order x.reply, f.store, next x.reply) := by
    rw [h]
    rfl
  exact mem_log_of_advance hadvance

/-- A step of another tenant changes nothing for this one. -/
theorem foreign (h : Indistinct tenant mine f g) (hi : ¬ mine i)
    (hapart : SavedApart tenant mine f.store (f.move (.step i x)).log) :
    Indistinct tenant mine (f.move (.step i x)) g := by
  cases hadvance : (f.running i).advance f.store x with
  | none => rwa [move_step_of_none hadvance]
  | some next =>
    obtain ⟨a, s, w⟩ := next
    rw [move_step_of_some hadvance] at hapart ⊢
    have hstore : s.holdings tenant = f.store.holdings tenant := by
      rw [(advance_fits hadvance).2]
      unfold Act.apply
      split
      · obtain ⟨hq, hover⟩ := hapart i _ _ List.mem_cons_self
        exact Store.holdings_insert_of_foreign (fun heq => hi (hq.1 heq))
          fun p hp heq => hi ((hover p hp).1 heq)
      · rfl
    refine ⟨hstore.trans h.holdings, fun j hj => ?_,
      (deeds_cons_of_false (Entry.isDeedOf_foreign hi a) _).trans h.deeds⟩
    show (Function.update f.running i w j).Level tenant _
    have hji : j ≠ i := fun heq => hi (heq ▸ hj)
    rw [Function.update_of_ne hji]
    exact h.running j hj

/-- Whoever has only to tell of its result makes no difference by telling it. -/
theorem aside (h : Indistinct tenant mine f g) (hi : mine i) {a : α}
    (ha : Alike (f.running i) (.done a)) : Indistinct tenant mine (f.move (.step i x)) g := by
  cases hadvance : (f.running i).advance f.store x with
  | none => rwa [move_step_of_none hadvance]
  | some next =>
    obtain ⟨b, s, w⟩ := next
    have haside := ha.isAside_of_advance hadvance
    obtain ⟨c, hleft, hright⟩ := (h.running i hi).of_told ha
    have hstore : s = f.store := by
      rw [(advance_fits hadvance).2]
      exact Act.apply_of_stored_eq_none (by cases b <;> first | rfl | cases haside) _
    rw [move_step_of_some hadvance]
    refine ⟨hstore ▸ h.holdings, fun j hj => ?_,
      (deeds_cons_of_false (Entry.isDeedOf_aside i haside) _).trans h.deeds⟩
    show (Function.update f.running i w j).Level tenant _
    by_cases hji : j = i
    · subst hji
      rw [Function.update_self]
      exact .told (hleft.aside (Workflow.goes_of_advance hadvance) haside) hright
    · rw [Function.update_of_ne hji]
      exact h.running j hj

/-- Whoever goes on in the same way on both floors, and does the same there, is equally far
after it. -/
theorem lockstep (h : Indistinct tenant mine f g) {a b : Act γ π} {s t : Store}
    {w : Workflow γ π α} (hf : (f.running i).advance f.store x = some (a, s, w))
    (hg : (g.running i).advance g.store y = some (b, t, w)) (hw : w.IsDiscreet tenant)
    (hstore : s.holdings tenant = t.holdings tenant)
    (hdeed : Paydesk.deeds mine [.act i a] = Paydesk.deeds mine [.act i b]) :
    Indistinct tenant mine (f.move (.step i x)) (g.move (.step i y)) := by
  rw [move_step_of_some hf, move_step_of_some hg]
  refine ⟨hstore, fun j hj => ?_, ?_⟩
  · show (Function.update f.running i w j).Level tenant (Function.update g.running i w j)
    by_cases hji : j = i
    · subst hji
      rw [Function.update_self, Function.update_self]
      exact .same hw
    · rw [Function.update_of_ne hji, Function.update_of_ne hji]
      exact h.running j hj
  · show Paydesk.deeds mine (.act i a :: f.log) = Paydesk.deeds mine (.act i b :: g.log)
    rw [deeds_cons (.act i a), deeds_cons (.act i b), hdeed, h.deeds]

/-- The same step of this tenant is answered in the same way on both floors. -/
theorem both (h : Indistinct tenant mine f g) (hi : mine i) (htime : x.time = y.time)
    (hid : x.id = y.id)
    (hapart : SavedApart tenant mine f.store (f.move (.step i x)).log)
    (hapart' : SavedApart tenant mine g.store (g.move (.step i y)).log)
    (hpaid : PaidBy pays mine (f.move (.step i x)).log)
    (hpaid' : PaidBy pays mine (g.move (.step i y)).log) :
    Indistinct tenant mine (f.move (.step i x)) (g.move (.step i y)) := by
  have htold : ∀ {a}, Alike (f.running i) (.done a) → Alike (g.running i) (.done a) →
      Indistinct tenant mine (f.move (.step i x)) (g.move (.step i y)) := fun hleft hright =>
    ((h.aside hi hleft).symm.aside hi hright).symm
  generalize hf : f.running i = v at htold
  generalize hg : g.running i = w at htold
  have hlevel := h.running i hi
  rw [hf, hg] at hlevel
  cases hlevel with
  | told hleft hright => exact htold hleft hright
  | same hdiscreet =>
    have hstep : ∀ {a b s t u}, v.advance f.store x = some (a, s, u) →
        v.advance g.store y = some (b, t, u) → u.IsDiscreet tenant →
        s.holdings tenant = t.holdings tenant →
        Paydesk.deeds mine [.act i a] = Paydesk.deeds mine [.act i b] →
        Indistinct tenant mine (f.move (.step i x)) (g.move (.step i y)) := fun ha hb =>
      h.lockstep (hf ▸ ha) (hg ▸ hb)
    cases v with
    | done a => exact htold (.done a) (.done a)
    | offer listener event next =>
      obtain ⟨a, -, ha⟩ := hdiscreet
      exact htold ha ha
    | warn notice next =>
      obtain ⟨a, -, ha⟩ := hdiscreet
      exact htold ha ha
    | clock next => exact hstep rfl (htime ▸ rfl) (hdiscreet x.time) h.holdings rfl
    | freshId next => exact hstep rfl (hid ▸ rfl) (hdiscreet x.id) h.holdings rfl
    | find id next =>
      -- what is found may differ in payments of other tenants, which are as good as none
      have hnext : next (.ok (f.store.find? id)) = next (.ok (g.store.find? id)) := by
        rw [hdiscreet.next_eq, hdiscreet.next_eq (g.store.find? id),
          Store.filter_find?_of_holdings h.holdings id]
      exact hstep (b := .find id (g.store.find? id)) rfl (hnext ▸ rfl) (hdiscreet.2 _) h.holdings rfl
    | list query next =>
      have hrun := Store.run_eq_of_holdings h.holdings hdiscreet.1
      exact hstep rfl (hrun ▸ rfl) (hdiscreet.2 _) h.holdings rfl
    | save q next =>
      -- under the name of an own payment nobody else has stored anything, so versions agree
      have hsame : f.store.nextVersion q = g.store.nextVersion q :=
        Store.nextVersion_eq_of_holdings h.holdings
          (fun p hp => ((hapart i q _ (mem_log_of_save hf)).2 p hp).2 hi)
          fun p hp => ((hapart' i q _ (mem_log_of_save hg)).2 p hp).2 hi
      cases hv : f.store.nextVersion q with
      | ok version =>
        exact hstep (advance_save_ok hv) (advance_save_ok (hsame ▸ hv)) (hdiscreet _)
          (Store.holdings_insert_congr h.holdings _) rfl
      | error why =>
        exact hstep (advance_save_error hv) (advance_save_error (hsame ▸ hv)) (hdiscreet _)
          h.holdings rfl
    | pay gateway order next =>
      have hreply : x.reply = y.reply :=
        (hpaid i gateway order _ hi (mem_log_of_pay hf)).trans
          (hpaid' i gateway order _ hi (mem_log_of_pay hg)).symm
      exact hstep rfl (hreply ▸ rfl) (hdiscreet _) h.holdings rfl

end Indistinct

end Floor

/-! ## Runs -/

section Runs

variable [DecidableEq ι] {desk : Desk γ π} {tenantOf : ι → Option String} {tenant : String}
  {pays : γ → RefundOrder → Except GatewayError RefundReply} {start : ι → Workflow γ π α}
  {steps : List (ι × Outside)}

theorem Floor.serve_append_singleton (f : Floor ι γ π α) (steps : List (ι × Outside)) (i : ι)
    (x : Outside) : f.serve (steps ++ [(i, x)]) = (f.serve steps).move (.step i x) := by
  rw [serve_append]
  rfl

theorem Floor.log_subset_serve_append (f : Floor ι γ π α) (steps : List (ι × Outside)) (i : ι)
    (x : Outside) : (f.serve steps).log ⊆ (f.serve (steps ++ [(i, x)])).log := by
  rw [serve_append_singleton]
  exact (log_suffix_move _ _).subset

/-- Everyone does errands of a tenant. The names of one tenant are nobody else's, and gateways answer
its orders in a certain way. -/
structure Fair (desk : Desk γ π) (tenantOf : ι → Option String) (tenant : String)
    (pays : γ → RefundOrder → Except GatewayError RefundReply) (start : ι → Workflow γ π α)
    (steps : List (ι × Outside)) : Prop where
  serves : ∀ i, Errand.Serves desk (tenantOf i) (start i)
  names : NamesApart tenantOf tenant ((Floor.opened start).serve steps).log
  paid : PaidBy pays (fun i => tenantOf i = some tenant) ((Floor.opened start).serve steps).log

theorem Fair.of_append {i : ι} {x : Outside}
    (h : Fair desk tenantOf tenant pays start (steps ++ [(i, x)])) :
    Fair desk tenantOf tenant pays start steps := by
  have hsub := (Floor.opened start).log_subset_serve_append steps i x
  exact ⟨h.serves, fun i j id hi hmem hmem' => h.names i j id hi (hsub hmem) (hsub hmem'),
    fun i gateway order reply hi hmem => h.paid i gateway order reply hi (hsub hmem)⟩

theorem Fair.paid_move {i : ι} {x : Outside}
    (h : Fair desk tenantOf tenant pays start (steps ++ [(i, x)])) :
    PaidBy pays (fun i => tenantOf i = some tenant)
      (((Floor.opened start).serve steps).move (.step i x)).log :=
  Floor.serve_append_singleton _ steps i x ▸ h.paid

/-- Payments of the tenant are saved by it alone, and over payments of it alone. -/
theorem Fair.savedApart {i : ι} {x : Outside}
    (h : Fair desk tenantOf tenant pays start (steps ++ [(i, x)])) :
    SavedApart tenant (fun i => tenantOf i = some tenant) ((Floor.opened start).serve steps).store
      (((Floor.opened start).serve steps).move (.step i x)).log := by
  rw [← Floor.serve_append_singleton]
  intro j q version hmem
  have hown := (h.serves j).tenant_of_save _ hmem
  obtain ⟨owner, howner, hnamed⟩ := Errand.Serves.namedFor h.serves _ hmem rfl
  obtain rfl := Option.some.inj (hown.symm.trans howner)
  have hiff : q.tenant = tenant ↔ tenantOf j = some tenant := by
    rw [hown, Option.some.injEq]
  refine ⟨hiff, fun p hp => ?_⟩
  show p.tenant = tenant ↔ tenantOf j = some tenant
  rw [← hiff]
  have hstored : NamedFor tenantOf ((Floor.opened start).serve (steps ++ [(i, x)])).log p.tenant q.id :=
    ((namedFor_of_play h.serves _).1 q.id p hp).mono
      ((Floor.opened start).log_subset_serve_append steps i x)
  constructor
  · intro heq
    exact NamedFor.eq h.names (heq ▸ hstored) hnamed
  · intro heq
    exact NamedFor.eq h.names (heq ▸ hnamed) hstored

theorem Fair.offeredBy_of_done (h : Fair desk tenantOf tenant pays start steps)
    {behaves : π → Event → Delivery}
    (hanswered : AnsweredBy behaves ((Floor.opened start).serve steps).log) {i : ι} {a : α}
    (hdone : ((Floor.opened start).serve steps).running i = .done a) :
    offeredBy i ((Floor.opened start).serve steps).log = rounds behaves desk.listeners
      ((storedBy i ((Floor.opened start).serve steps).log).reverse.flatMap Payment.events) :=
  (h.serves i).offeredBy_of_done hanswered hdone

omit [DecidableEq ι] in
theorem Errand.Serves.isDiscreet {w : Workflow γ π α} (h : Errand.Serves desk (some tenant) w) :
    w.IsDiscreet tenant := by
  generalize hsome : some tenant = owner at h
  cases h with
  | errand e conclude =>
    cases hsome
    exact (e.isDiscreet desk).conclude conclude
  | atOnce owner a => trivial

/-- Runs in which a tenant does the same are the same to it. -/
theorem indistinct_of_inStep {tenantOf' : ι → Option String} {start' : ι → Workflow γ π α}
    {steps' : List (ι × Outside)}
    (hmine : ∀ i, tenantOf' i = some tenant ↔ tenantOf i = some tenant)
    (hstart : ∀ i, tenantOf i = some tenant → start' i = start i)
    (hsteps : InStep (fun i => tenantOf i = some tenant) steps steps')
    (h : Fair desk tenantOf tenant pays start steps)
    (h' : Fair desk tenantOf' tenant pays start' steps') :
    Floor.Indistinct tenant (fun i => tenantOf i = some tenant) ((Floor.opened start).serve steps)
      ((Floor.opened start').serve steps') := by
  have hsame : (fun i => tenantOf' i = some tenant) = fun i => tenantOf i = some tenant :=
    funext fun i => propext (hmine i)
  induction hsteps with
  | nil =>
    refine ⟨rfl, fun i hi => ?_, rfl⟩
    show (start i).Level tenant (start' i)
    rw [hstart i hi]
    exact .same (hi ▸ h.serves i).isDiscreet
  | left hsteps hforeign ih =>
    rw [Floor.serve_append_singleton]
    exact (ih h.of_append h').foreign hforeign h.savedApart
  | right hsteps hforeign ih =>
    rw [Floor.serve_append_singleton]
    exact ((ih h h'.of_append).symm.foreign hforeign (hsame ▸ h'.savedApart)).symm
  | both hsteps hown htime hid ih =>
    rw [Floor.serve_append_singleton, Floor.serve_append_singleton]
    exact (ih h.of_append h'.of_append).both hown htime hid h.savedApart (hsame ▸ h'.savedApart)
      h.paid_move (hsame ▸ h'.paid_move)

end Runs

end Paydesk
