import Paydesk.Proofs.Service.Alike
import Paydesk.Proofs.Service.Trail

/-!
# Listeners make no difference

Runs of use cases that are alike, such as the same calls of the service with other listeners, or with
listeners that answer in another way.

1. The effects of a run are everything in its log but offers and warnings (`effects`). Runs with the
   same effects have the same store and the same results (`store_eq_of_effects_eq`,
   `alike_of_effects_eq`).
2. For every run there is one with the same effects and results in which the listeners are and answer
   as one likes (`exists_play_answered`): the second run follows the first one step by step
   (`Floor.Shadows`), and whoever has something to offer is brought past it before its next effect.
-/

namespace Paydesk

variable {ι γ π α : Type}

open Workflow (Alike)

/-! ## Effects -/

/-- The step is an offer or a warning. -/
def Act.isAside : Act γ π → Bool
  | .offer _ _ _ => true
  | .warn _ => true
  | _ => false

/-- The entry tells of neither an offer nor a warning. -/
def Entry.isEffect : Entry ι γ π → Bool
  | .act _ a => !a.isAside
  | .delete _ => true

/-- Everything in a log but offers and warnings. -/
def effects (log : List (Entry ι γ π)) : List (Entry ι γ π) :=
  log.filter Entry.isEffect

theorem effects_aside {i : ι} {a : Act γ π} (h : a.isAside = true) (log : List (Entry ι γ π)) :
    effects (.act i a :: log) = effects log :=
  List.filter_cons_of_neg (by simp [Entry.isEffect, h])

theorem effects_effect {i : ι} {a : Act γ π} (h : a.isAside = false) (log : List (Entry ι γ π)) :
    effects (.act i a :: log) = .act i a :: effects log :=
  List.filter_cons_of_pos (by simp [Entry.isEffect, h])

theorem replay_effects (log : List (Entry ι γ π)) : replay (effects log) = replay log := by
  induction log with
  | nil => rfl
  | cons e log ih =>
    cases e with
    | delete id => exact congrArg (Store.delete · id) ih
    | act i a =>
      cases ha : a.isAside with
      | false => rw [effects_effect ha, replay, replay, ih]
      | true =>
        rw [effects_aside ha, ih]
        cases a <;> first | rfl | cases ha

theorem stepsOf_effects [DecidableEq ι] (i : ι) (log : List (Entry ι γ π)) :
    stepsOf i (effects log) = (stepsOf i log).filter fun a => !a.isAside := by
  induction log with
  | nil => rfl
  | cons e log ih =>
    cases e with
    | delete id => exact ih
    | act j a =>
      by_cases hij : j = i
      · subst hij
        cases ha : a.isAside with
        | false =>
          rw [effects_effect ha, stepsOf_act_self, stepsOf_act_self,
            List.filter_cons_of_pos (by simp [ha]), ih]
        | true =>
          rw [effects_aside ha, stepsOf_act_self, List.filter_cons_of_neg (by simp [ha]), ih]
      · rw [stepsOf_act_of_ne hij, ← ih]
        cases ha : a.isAside with
        | false => rw [effects_effect ha, stepsOf_act_of_ne hij]
        | true => rw [effects_aside ha]

/-! ## Runs of use cases that are alike -/

namespace Workflow

/-- The first step of a use case with its answer, and the rest. -/
inductive Goes : Workflow γ π α → Act γ π → Workflow γ π α → Prop
  | clock {next : Instant → Workflow γ π α} {time : Instant} :
      Goes (.clock next) (.clock time) (next time)
  | freshId {next : PaymentId → Workflow γ π α} {id : PaymentId} :
      Goes (.freshId next) (.freshId id) (next id)
  | find {id : PaymentId} {next : Except StoreError (Option Payment) → Workflow γ π α}
      {found : Option Payment} : Goes (.find id next) (.find id found) (next (.ok found))
  | list {query : Store.Query} {next : Except StoreError (List Payment) → Workflow γ π α}
      {found : List Payment} : Goes (.list query next) (.list query found) (next (.ok found))
  | saved {p : Payment} {next : Except StoreError Payment → Workflow γ π α} {version : Nat} :
      Goes (.save p next) (.save p (.ok version)) (next (.ok (p.withVersion version)))
  | refused {p : Payment} {next : Except StoreError Payment → Workflow γ π α} {why : Conflict} :
      Goes (.save p next) (.save p (.error why)) (next (.error (.conflict why)))
  | pay {gateway : γ} {order : RefundOrder}
      {next : Except GatewayError RefundReply → Workflow γ π α}
      {reply : Except GatewayError RefundReply} :
      Goes (.pay gateway order next) (.pay gateway order reply) (next reply)
  | offer {listener : π} {event : Event} {next : Delivery → Workflow γ π α} {delivery : Delivery} :
      Goes (.offer listener event next) (.offer listener event delivery) (next delivery)
  | warn {notice : Notice} {next : Workflow γ π α} : Goes (.warn notice next) (.warn notice) next

theorem goes_of_advance {w w' : Workflow γ π α} {s s' : Store} {x : Outside} {a : Act γ π}
    (h : w.advance s x = some (a, s', w')) : Goes w a w' := by
  cases w with
  | done => cases h
  | save p next =>
    cases hv : s.nextVersion p with
    | ok version =>
      rw [advance_save_ok hv] at h
      cases h
      exact .saved
    | error why =>
      rw [advance_save_error hv] at h
      cases h
      exact .refused
  | clock next => cases h; exact .clock
  | freshId next => cases h; exact .freshId
  | find id next => cases h; exact .find
  | list query next => cases h; exact .list
  | pay gateway order next => cases h; exact .pay
  | offer listener event next => cases h; exact .offer
  | warn notice next => cases h; exact .warn

namespace Alike

variable {v w v' w' : Workflow γ π α} {a : Act γ π}

theorem aside (h : Alike v w) (hgoes : Goes v a v') (haside : a.isAside = true) : Alike v' w := by
  induction h with
  | done => cases hgoes
  | offerLeft h _ =>
    cases hgoes
    exact h _
  | warnLeft h _ =>
    cases hgoes
    exact h
  | offerRight _ ih => exact .offerRight fun delivery => ih delivery hgoes
  | warnRight _ ih => exact .warnRight (ih hgoes)
  | _ => cases hgoes <;> cases haside

theorem effect (h : Alike v w) (hv : Goes v a v') (hw : Goes w a w')
    (heffect : a.isAside = false) : Alike v' w' := by
  cases h with
  | done => cases hv
  | offerLeft _ =>
    cases hv
    cases heffect
  | warnLeft _ =>
    cases hv
    cases heffect
  | offerRight _ =>
    cases hw
    cases heffect
  | warnRight _ =>
    cases hw
    cases heffect
  | clock h => cases hv; cases hw; exact h _
  | freshId h => cases hv; cases hw; exact h _
  | find h => cases hv; cases hw; exact h _
  | list h => cases hv; cases hw; exact h _
  | save h => cases hv <;> cases hw <;> exact h _
  | pay h => cases hv; cases hw; exact h _

theorem asides {acts : List (Act γ π)} (h : Alike v w) (htrail : Trail Takes w acts w')
    (hquiet : (acts.filter fun a => !a.isAside) = []) : Alike v w' := by
  induction htrail with
  | nil => exact h
  | @step acts t u a _ htakes ih =>
    cases ha : a.isAside with
    | false =>
      rw [List.filter_cons_of_pos (by simp [ha])] at hquiet
      cases hquiet
    | true =>
      rw [List.filter_cons_of_neg (by simp [ha])] at hquiet
      obtain ⟨_, _, _, -, hadvance⟩ := htakes
      exact ((ih hquiet).symm.aside (goes_of_advance hadvance) ha).symm

/-- After the same effects they are still alike. -/
theorem trail {acts acts' : List (Act γ π)} (h : Alike v w) (hv : Trail Takes v acts v')
    (hw : Trail Takes w acts' w')
    (hsame : (acts.filter fun a => !a.isAside) = acts'.filter fun a => !a.isAside) :
    Alike v' w' := by
  induction hv generalizing acts' w' with
  | nil => exact h.asides hw hsame.symm
  | @step acts t u a _ htakes ih =>
    obtain ⟨_, _, _, -, hadvance⟩ := htakes
    have hgoes := goes_of_advance hadvance
    cases ha : a.isAside with
    | true =>
      rw [List.filter_cons_of_neg (by simp [ha])] at hsame
      exact (ih hw hsame).aside hgoes ha
    | false =>
      -- the other has taken the same step, and only offers and warnings after it
      rw [List.filter_cons_of_pos (by simp [ha])] at hsame
      obtain ⟨newer, older, rfl, hnewer, -, holder⟩ := List.filter_eq_cons_iff.1 hsame.symm
      obtain ⟨m, m', hbefore, ⟨_, _, _, -, hadvance'⟩, hafter⟩ := hw.of_append_cons
      have hstep := (ih hbefore holder.symm).effect hgoes (goes_of_advance hadvance') ha
      exact hstep.asides hafter (List.filter_eq_nil_iff.2 hnewer)

end Alike

end Workflow

section Runs

variable [DecidableEq ι]

/-- Runs of use cases that are alike, with the same effects, have come to use cases that are
alike. -/
theorem alike_of_effects_eq (start start' : ι → Workflow γ π α) {moves moves' : List (Move ι)}
    {i : ι} (h : Alike (start i) (start' i))
    (hsame : effects (Floor.play start moves).log = effects (Floor.play start' moves').log) :
    Alike ((Floor.play start moves).running i) ((Floor.play start' moves').running i) := by
  refine h.trail (trail_play start moves i) (trail_play start' moves' i) ?_
  rw [← stepsOf_effects, ← stepsOf_effects, hsame]

theorem store_eq_of_effects_eq {start start' : ι → Workflow γ π α} {moves moves' : List (Move ι)}
    (hsame : effects (Floor.play start moves).log = effects (Floor.play start' moves').log) :
    (Floor.play start moves).store = (Floor.play start' moves').store := by
  rw [store_play, store_play, ← replay_effects, hsame, replay_effects]

/-! ## Other listeners -/

/-- Listeners have answered every offer so. -/
def AnsweredBy (behaves : π → Event → Delivery) (log : List (Entry ι γ π)) : Prop :=
  ∀ i listener event delivery, Entry.act i (.offer listener event delivery) ∈ log →
    delivery = behaves listener event

/-- The test holds of every delivery in the log. -/
def allDeliveries (test : π → Event → Delivery → Bool) (log : List (Entry ι γ π)) : Bool :=
  log.all fun
    | .act _ (.offer listener event delivery) => test listener event delivery
    | _ => true

omit [DecidableEq ι] in
theorem allDeliveries_iff {test : π → Event → Delivery → Bool} {log : List (Entry ι γ π)} :
    allDeliveries test log = true ↔ ∀ i listener event delivery,
      Entry.act i (.offer listener event delivery) ∈ log → test listener event delivery = true := by
  refine List.all_eq_true.trans ⟨fun h _ _ _ _ hmem => h _ hmem, fun h entry hmem => ?_⟩
  split
  · exact h _ _ _ _ hmem
  · rfl

instance {behaves : π → Event → Delivery} {log : List (Entry ι γ π)} :
    Decidable (AnsweredBy behaves log) :=
  have hiff : allDeliveries (fun listener event delivery => delivery = behaves listener event) log =
      true ↔ AnsweredBy behaves log := by
    simp only [allDeliveries_iff, AnsweredBy, decide_eq_true_eq]
  decidable_of_iff _ hiff

/-- The next step is an offer or a warning. -/
def Workflow.isAside : Workflow γ π α → Bool
  | .offer _ _ _ => true
  | .warn _ _ => true
  | _ => false

theorem Workflow.Alike.eq_done {a : α} {w : Workflow γ π α} (h : Alike (.done a) w)
    (hw : w.isAside = false) : w = .done a := by
  cases h with
  | done => rfl
  | offerRight _ => cases hw
  | warnRight _ => cases hw

/-- Who is alike, and has nothing to offer or to warn of, takes the next effect as well. -/
theorem Workflow.Alike.advance {v w v' : Workflow γ π α} {s s' : Store} {x : Outside}
    {a : Act γ π} (h : Alike v w) (hw : w.isAside = false)
    (hadvance : v.advance s x = some (a, s', v')) (heffect : a.isAside = false) :
    ∃ w', w.advance s x = some (a, s', w') ∧ Alike v' w' := by
  cases h with
  | done => cases hadvance
  | offerLeft _ =>
    cases hadvance
    cases heffect
  | warnLeft _ =>
    cases hadvance
    cases heffect
  | offerRight _ => cases hw
  | warnRight _ => cases hw
  | @save p next next' h =>
    cases hv : s.nextVersion p with
    | ok version =>
      rw [advance_save_ok hv] at hadvance
      cases hadvance
      exact ⟨_, advance_save_ok hv, h _⟩
    | error why =>
      rw [advance_save_error hv] at hadvance
      cases hadvance
      exact ⟨_, advance_save_error hv, h _⟩
  | clock h => cases hadvance; exact ⟨_, rfl, h _⟩
  | freshId h => cases hadvance; exact ⟨_, rfl, h _⟩
  | find h => cases hadvance; exact ⟨_, rfl, h _⟩
  | list h => cases hadvance; exact ⟨_, rfl, h _⟩
  | pay h => cases hadvance; exact ⟨_, rfl, h _⟩

namespace Floor

/-- The floor after steps of use cases. -/
def serve (f : Floor ι γ π α) (steps : List (ι × Outside)) : Floor ι γ π α :=
  (steps.map fun step => Move.step step.1 step.2).foldl move f

theorem serve_append (f : Floor ι γ π α) (steps more : List (ι × Outside)) :
    f.serve (steps ++ more) = (f.serve steps).serve more := by
  unfold serve
  rw [List.map_append, List.foldl_append]

/-- On the second floor the same has happened as on the first, apart from offers and warnings, which
listeners have answered in a way of their own. -/
structure Shadows (behaves : π → Event → Delivery) (f g : Floor ι γ π α) : Prop where
  store : g.store = f.store
  effects : effects g.log = effects f.log
  running : ∀ i, Alike (f.running i) (g.running i)
  answered : AnsweredBy behaves g.log

variable {behaves : π → Event → Delivery} {f g : Floor ι γ π α}

/-- A step that is an offer or a warning needs no counterpart on the second floor. -/
theorem Shadows.aside (h : Shadows behaves f g) {i : ι} {x : Outside} {a : Act γ π} {s : Store}
    {w : Workflow γ π α} (hadvance : (f.running i).advance f.store x = some (a, s, w))
    (haside : a.isAside = true) : Shadows behaves (f.move (.step i x)) g := by
  have hgoes := Workflow.goes_of_advance hadvance
  have hstore : s = f.store := by
    rw [(advance_fits hadvance).2]
    exact Act.apply_of_stored_eq_none (by cases a <;> first | rfl | cases haside) _
  rw [move_step_of_some hadvance]
  refine ⟨h.store.trans hstore.symm, h.effects.trans (effects_aside haside _).symm, fun j => ?_,
    h.answered⟩
  by_cases hij : j = i
  · subst hij
    simpa using (h.running j).aside hgoes haside
  · simpa [hij] using h.running j

theorem Shadows.effect (h : Shadows behaves f g) {i : ι} {x : Outside} {a : Act γ π} {s : Store}
    {w : Workflow γ π α} (hadvance : (f.running i).advance f.store x = some (a, s, w))
    (heffect : a.isAside = false) (hready : (g.running i).isAside = false) :
    Shadows behaves (f.move (.step i x)) (g.move (.step i x)) := by
  obtain ⟨w', hadvance', halike⟩ := (h.running i).advance hready hadvance heffect
  rw [← h.store] at hadvance'
  rw [move_step_of_some hadvance, move_step_of_some hadvance']
  refine ⟨rfl, ?_, fun j => ?_, fun j listener event delivery hmem => ?_⟩
  · rw [effects_effect heffect, effects_effect heffect, h.effects]
  · by_cases hij : j = i
    · subst hij
      simpa using halike
    · simpa [hij] using h.running j
  · rcases List.mem_cons.1 hmem with heq | hold
    · cases heq
      cases heffect
    · exact h.answered j listener event delivery hold

/-- An offer or a warning on the second floor needs no counterpart on the first one. -/
theorem Shadows.pass (h : Shadows behaves f g) {i : ι} {x : Outside} {a : Act γ π} {s : Store}
    {w : Workflow γ π α} (hadvance : (g.running i).advance g.store x = some (a, s, w))
    (haside : a.isAside = true)
    (hanswer : ∀ listener event delivery, a = .offer listener event delivery →
      delivery = behaves listener event) : Shadows behaves f (g.move (.step i x)) := by
  have hgoes := Workflow.goes_of_advance hadvance
  have hstore : s = g.store := by
    rw [(advance_fits hadvance).2]
    exact Act.apply_of_stored_eq_none (by cases a <;> first | rfl | cases haside) _
  rw [move_step_of_some hadvance]
  refine ⟨hstore.trans h.store, (effects_aside haside _).trans h.effects, fun j => ?_,
    fun j listener event delivery hmem => ?_⟩
  · by_cases hij : j = i
    · subst hij
      simpa using ((h.running j).symm.aside hgoes haside).symm
    · simpa [hij] using h.running j
  · rcases List.mem_cons.1 hmem with heq | hold
    · cases heq
      exact hanswer listener event delivery rfl
    · exact h.answered j listener event delivery hold

/-- On the second floor some steps bring the use case past its offers and warnings, without a move of
anybody else. -/
def Settles (behaves : π → Event → Delivery) (f g : Floor ι γ π α) (i : ι) : Prop :=
  ∃ steps, Shadows behaves f (g.serve steps) ∧ ((g.serve steps).running i).isAside = false ∧
    ∀ j, j ≠ i → (g.serve steps).running j = g.running j

theorem Settles.of_step {i : ι} {x : Outside} {a : Act γ π} {s : Store} {w : Workflow γ π α}
    (hadvance : (g.running i).advance g.store x = some (a, s, w))
    (h : Settles behaves f (g.move (.step i x)) i) : Settles behaves f g i := by
  obtain ⟨steps, hshadows, hready, hothers⟩ := h
  refine ⟨(i, x) :: steps, hshadows, hready, fun j hj => (hothers j hj).trans ?_⟩
  rw [move_step_of_some hadvance]
  exact Function.update_of_ne hj _ _

/-- On the second floor everyone can be brought past its offers and warnings. -/
theorem Shadows.settles (h : Shadows behaves f g) (i : ι) : Settles behaves f g i := by
  generalize hw : g.running i = w
  induction w generalizing g with
  | offer listener event next ih =>
    let x : Outside := ⟨default, .first, .error .timedOut, behaves listener event⟩
    have hadvance : (g.running i).advance g.store x =
        some (.offer listener event x.delivery, g.store, next x.delivery) := by
      rw [hw]
      rfl
    have hpass : Shadows behaves f (g.move (.step i x)) :=
      h.pass hadvance rfl fun _ _ _ heq => by cases heq; rfl
    have hnext : (g.move (.step i x)).running i = next x.delivery := by
      rw [move_step_of_some hadvance]
      exact Function.update_self _ _ _
    exact .of_step hadvance (ih x.delivery hpass hnext)
  | warn notice next ih =>
    let x : Outside := ⟨default, .first, .error .timedOut, .accepted⟩
    have hadvance : (g.running i).advance g.store x = some (.warn notice, g.store, next) := by
      rw [hw]
      rfl
    have hpass : Shadows behaves f (g.move (.step i x)) :=
      h.pass hadvance rfl fun _ _ _ heq => by cases heq
    have hnext : (g.move (.step i x)).running i = next := by
      rw [move_step_of_some hadvance]
      exact Function.update_self _ _ _
    exact .of_step hadvance (ih hpass hnext)
  | _ => exact ⟨[], h, congrArg Workflow.isAside hw, fun j _ => rfl⟩

/-- The second floor can follow every step of the first one. -/
theorem Shadows.exists_step (h : Shadows behaves f g) (i : ι) (x : Outside) :
    ∃ steps, Shadows behaves (f.move (.step i x)) (g.serve steps) := by
  cases hadvance : (f.running i).advance f.store x with
  | none =>
    rw [move_step_of_none hadvance]
    exact ⟨[], h⟩
  | some next =>
    obtain ⟨a, s, w⟩ := next
    cases ha : a.isAside with
    | true => exact ⟨[], h.aside hadvance ha⟩
    | false =>
      obtain ⟨steps, hshadows, hready, -⟩ := h.settles i
      refine ⟨steps ++ [(i, x)], ?_⟩
      rw [serve_append]
      exact hshadows.effect hadvance ha hready

theorem Shadows.exists_all_ready (h : Shadows behaves f g) (callers : List ι) :
    ∃ steps, Shadows behaves f (g.serve steps) ∧
      ∀ i ∈ callers, ((g.serve steps).running i).isAside = false := by
  induction callers with
  | nil => exact ⟨[], h, fun i hi => absurd hi List.not_mem_nil⟩
  | cons i rest ih =>
    obtain ⟨steps, hshadows, hready⟩ := ih
    obtain ⟨more, hshadows, hlast, hothers⟩ := hshadows.settles i
    refine ⟨steps ++ more, ?_⟩
    rw [serve_append]
    refine ⟨hshadows, fun j hj => ?_⟩
    by_cases hij : j = i
    · exact hij ▸ hlast
    · rw [hothers j hij]
      exact hready j ((List.mem_cons.1 hj).resolve_left hij)

end Floor

/-- For every run of some use cases there is a run of others that are alike, with the same effects
and the same results of any callers, in which listeners answer as one likes. -/
theorem exists_play_answered {start start' : ι → Workflow γ π α}
    (h : ∀ i, Alike (start i) (start' i)) (behaves : π → Event → Delivery)
    (steps : List (ι × Outside)) (callers : List ι) :
    ∃ steps',
      let floor := (Floor.opened start).serve steps
      let floor' := (Floor.opened start').serve steps'
      AnsweredBy behaves floor'.log ∧ effects floor'.log = effects floor.log ∧
        floor'.store = floor.store ∧
        ∀ i ∈ callers, ∀ a, floor.running i = .done a → floor'.running i = .done a := by
  have hfollow : ∃ steps', Floor.Shadows behaves ((Floor.opened start).serve steps)
      ((Floor.opened start').serve steps') := by
    induction steps using List.reverseRecOn with
    | nil => exact ⟨[], rfl, rfl, h, fun _ _ _ _ hmem => absurd hmem List.not_mem_nil⟩
    | append_singleton steps step ih =>
      obtain ⟨steps', hshadows⟩ := ih
      obtain ⟨more, hmore⟩ := hshadows.exists_step step.1 step.2
      rw [← Floor.serve_append] at hmore
      refine ⟨steps' ++ more, ?_⟩
      rw [Floor.serve_append _ steps]
      exact hmore
  obtain ⟨steps', hshadows⟩ := hfollow
  obtain ⟨more, hshadows, hready⟩ := hshadows.exists_all_ready callers
  rw [← Floor.serve_append] at hshadows hready
  refine ⟨steps' ++ more, hshadows.answered, hshadows.effects, hshadows.store, fun i hi a ha => ?_⟩
  have halike := hshadows.running i
  rw [ha] at halike
  exact halike.eq_done (hready i hi)

end Runs

end Paydesk
