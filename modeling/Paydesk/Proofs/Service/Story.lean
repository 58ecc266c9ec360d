import Paydesk.Proofs.Payment.Story
import Paydesk.Proofs.Service.Publication

/-!
# Events tell the story of each payment

What is published of a payment when one call of the service is made after the other, and what is
stored of it: `events_tell_story`.

1. What accepted saves have recorded of a payment tells the story of what is stored, in any order of
   the steps of any calls (`told_of_run`): a save continues the history of its payment, and what it
   records continues the story.
2. A call that has come to its end has offered what its save has recorded to every listener, event
   after event, if all of them answer (`Course.offers_of_ends`). When calls are made in turn, what
   they offer one after the other is what they record one after the other
   (`Desk.InTurn.offers_eq`).
-/

namespace Paydesk

variable {ι γ π : Type}

/-! ## What is recorded and what is offered, by all calls together -/

/-- The step that an entry tells of, whoever has taken it. -/
def Entry.step? : Entry ι γ π → Option (Act γ π)
  | .act _ a => some a
  | .delete _ => none

/-- The steps of all use cases, the oldest first. -/
def allSteps (log : List (Entry ι γ π)) : List (Act γ π) :=
  (log.filterMap Entry.step?).reverse

/-- The events that accepted saves have recorded, the first one first. -/
def chronicle (log : List (Entry ι γ π)) : List Event :=
  ((allSteps log).filterMap Act.stored).flatMap Payment.events

/-- The events of one payment that accepted saves have recorded. -/
def storyOf (id : PaymentId) (log : List (Entry ι γ π)) : List Event :=
  (chronicle log).filter fun e => e.payment = id

/-- What was offered to listeners by anybody, the oldest first. -/
def offers (log : List (Entry ι γ π)) : List (π × Event) :=
  (allSteps log).filterMap Act.offered

theorem allSteps_append (later log : List (Entry ι γ π)) :
    allSteps (later ++ log) = allSteps log ++ allSteps later := by
  unfold allSteps
  rw [List.filterMap_append, List.reverse_append]

theorem chronicle_append (later log : List (Entry ι γ π)) :
    chronicle (later ++ log) = chronicle log ++ chronicle later := by
  unfold chronicle
  rw [allSteps_append, List.filterMap_append, List.flatMap_append]

theorem offers_append (later log : List (Entry ι γ π)) :
    offers (later ++ log) = offers log ++ offers later := by
  unfold offers
  rw [allSteps_append, List.filterMap_append]

theorem allSteps_of_isBy [DecidableEq ι] {i : ι} {log : List (Entry ι γ π)}
    (h : ∀ e ∈ log, e.IsBy i) : allSteps log = (stepsOf i log).reverse := by
  unfold allSteps stepsOf
  congr 1
  refine List.filterMap_congr fun e he => ?_
  cases e with
  | delete id => rfl
  | act j a =>
    obtain rfl : j = i := h _ he
    exact (Entry.stepOf_act_self j a).symm

theorem stepsOf_of_not_isBy [DecidableEq ι] {i : ι} {log : List (Entry ι γ π)}
    (h : ∀ e ∈ log, ¬ e.IsBy i) : stepsOf i log = [] := by
  refine List.filterMap_eq_nil_iff.2 fun e he => ?_
  cases e with
  | delete id => rfl
  | act j a => exact Entry.stepOf_act_of_ne (h _ he) a

theorem chronicle_cons_of_none {e : Entry ι γ π} (h : e.written = none) (log : List (Entry ι γ π)) :
    chronicle (e :: log) = chronicle log := by
  have hnothing : chronicle [e] = [] := by
    cases e with
    | delete id => rfl
    | act i a =>
      have hstored : a.stored = none := by
        unfold Act.stored
        split
        · cases h
        · rfl
      simp [chronicle, allSteps, Entry.step?, hstored]
  rw [← List.singleton_append, chronicle_append, hnothing, List.append_nil]

theorem chronicle_save (i : ι) (q : Payment) (version : Nat) (log : List (Entry ι γ π)) :
    chronicle (.act i (.save q (.ok version)) :: log) = chronicle log ++ q.events := by
  rw [← List.singleton_append, chronicle_append]
  congr 1
  exact List.append_nil _

theorem storyOf_save {q : Payment} (hevents : ∀ e ∈ q.events, e.payment = q.id) (i : ι)
    (version : Nat) (id : PaymentId) (log : List (Entry ι γ π)) :
    storyOf id (.act i (.save q (.ok version)) :: log) =
      if q.id = id then storyOf id log ++ q.events else storyOf id log := by
  unfold storyOf
  rw [chronicle_save, List.filter_append]
  split
  · rename_i hid
    congr 1
    exact List.filter_eq_self.2 fun e he => decide_eq_true ((hevents e he).trans hid)
  · rename_i hid
    have hnone : q.events.filter (fun e => e.payment = id) = [] :=
      List.filter_eq_nil_iff.2 fun e he heq =>
        hid ((hevents e he).symm.trans (of_decide_eq_true heq))
    rw [hnone, List.append_nil]

theorem events_of_mem_writesOf {id : PaymentId} {p : Payment} {log : List (Entry ι γ π)}
    (h : p ∈ writesOf id log) : p.events = [] := by
  obtain ⟨e, -, hwritten⟩ := List.mem_filterMap.1 (List.mem_filter.1 h).1
  rcases e.written_cases with hnone | ⟨i, q, version, rfl⟩
  · rw [hnone] at hwritten
    cases hwritten
  · cases hwritten
    rfl

/-! ## What is recorded of a payment tells its story -/

section Runs

variable [DecidableEq ι] {desk : Desk γ π} {useCases : ι → UseCase} {log : List (Entry ι γ π)}
  {stage : ι → Course.Stage π}

omit [DecidableEq ι] in
theorem Course.Wrote.told {s : Course.Stage π} {q : Payment} {version : Nat}
    (h : Course.Wrote log s q version)
    (hold : ∀ p ∈ (writesOf q.id log).head?, p.ToldBy (storyOf q.id log))
    (hnew : writesOf q.id log = [] → storyOf q.id log = []) :
    q.ToldBy (storyOf q.id log ++ q.events) := by
  cases h with
  | @create draft now id hnil =>
    have hnothing : storyOf (Payment.create id now draft).id log = [] := hnew hnil
    rw [hnothing, List.nil_append]
    exact Payment.toldBy_create id now draft
  | @change _ p _ c plan now older _ hcommand _ hgives hnewest =>
    have hid := hgives.sameIdentity.id
    have hmem : p ∈ writesOf p.id log := by
      rw [hnewest]
      exact List.mem_cons_self
    refine hgives.toldBy hcommand (events_of_mem_writesOf hmem) ?_
    rw [hid, hnewest] at hold
    rw [hid]
    exact hold p rfl

/-- What accepted saves have recorded of a payment tells the story of what is stored. -/
theorem told_of_run (h : Run (Course.Step desk) (fun i => .idle (useCases i)) log stage)
    (hkept : ∀ id, Entry.delete id ∉ log) (id : PaymentId) :
    (∀ p ∈ (writesOf id log).head?, p.ToldBy (storyOf id log)) ∧
      (writesOf id log = [] → storyOf id log = []) := by
  induction h generalizing id with
  | nil =>
    refine ⟨fun p hp => ?_, fun _ => rfl⟩
    have hnone : (writesOf id ([] : List (Entry ι γ π))).head? = none := rfl
    rw [hnone] at hp
    cases hp
  | delete _ _ => exact absurd List.mem_cons_self (hkept _)
  | @act log stage i a t hrun hfits hpermitted ih =>
    have hbefore : ∀ id, Entry.delete id ∉ log := fun id hmem =>
      hkept id (List.mem_cons_of_mem _ hmem)
    have hwere := fun id => ih hbefore id
    rcases (Entry.act i a).written_cases with hwritten | ⟨j, q, version, heq⟩
    · rw [writesOf_cons_of_none hwritten, storyOf, chronicle_cons_of_none hwritten]
      exact hwere id
    · cases heq
      have hwrote := Course.wrote_of_run hrun hbefore hfits.symm hpermitted
      have hevents := payment_of_mem_save (.act hrun hfits hpermitted) List.mem_cons_self
      rw [writesOf_save, storyOf_save hevents]
      by_cases hid : q.id = id
      · subst hid
        rw [if_pos rfl, if_pos rfl]
        refine ⟨fun p hp => ?_, fun hnil => absurd hnil (List.cons_ne_nil _ _)⟩
        obtain rfl := Option.some.inj hp
        exact (hwrote.told (hwere q.id).1 (hwere q.id).2).saved version
      · rw [if_neg hid, if_neg hid]
        exact hwere id

end Runs

/-! ## Calls in turn -/

theorem audience_accepted (event : Event) (listeners : List π) :
    audience (fun _ _ => .accepted) event listeners = listeners := by
  induction listeners with
  | nil => rfl
  | cons listener rest ih =>
    show listener :: audience _ event rest = _
    rw [ih]

/-- Every event to every listener. -/
def fanOut (listeners : List π) (events : List Event) : List (π × Event) :=
  events.flatMap fun event => listeners.map fun listener => (listener, event)

theorem rounds_accepted (listeners : List π) (events : List Event) :
    rounds (fun _ _ => .accepted) listeners events = fanOut listeners events := by
  unfold rounds fanOut
  simp only [audience_accepted]

theorem fanOut_append (listeners : List π) (events more : List Event) :
    fanOut listeners (events ++ more) = fanOut listeners events ++ fanOut listeners more :=
  List.flatMap_append

theorem filter_fanOut (listeners : List π) (events : List Event) (id : PaymentId) :
    (fanOut listeners events).filter (fun offer => offer.2.payment = id) =
      fanOut listeners (events.filter fun e => e.payment = id) := by
  induction events with
  | nil => rfl
  | cons event rest ih =>
    have hsplit : fanOut listeners (event :: rest) =
        (listeners.map fun listener => (listener, event)) ++ fanOut listeners rest :=
      List.flatMap_cons
    rw [hsplit, List.filter_append, ih, List.filter_map]
    by_cases hid : event.payment = id
    · have hkeep : (event :: rest).filter (fun e => e.payment = id) =
          event :: rest.filter fun e => e.payment = id :=
        List.filter_cons_of_pos (decide_eq_true hid)
      rw [hkeep]
      simp [fanOut, Function.comp_def, hid]
    · have hdrop : (event :: rest).filter (fun e => e.payment = id) =
          rest.filter fun e => e.payment = id :=
        List.filter_cons_of_neg (by simpa using hid)
      rw [hdrop]
      simp [Function.comp_def, hid]

/-- One call after the other: each is made when the one before it has come to its end. -/
inductive Desk.InTurn [DecidableEq ι] (desk : Desk γ π) (useCases : ι → UseCase) :
    List (ι × Outside) → Prop
  | nil : InTurn desk useCases []
  | call {steps : List (ι × Outside)} {i : ι} {answers : List Outside}
      (turns : InTurn desk useCases steps) (fresh : i ∉ steps.map Prod.fst)
      (done : ((desk.floor useCases (steps ++ answers.map fun x => (i, x))).running i).isDone =
        true) :
      InTurn desk useCases (steps ++ answers.map fun x => (i, x))

theorem Desk.InTurn.offers_eq [DecidableEq ι] {desk : Desk γ π} {useCases : ι → UseCase}
    {steps : List (ι × Outside)} (h : desk.InTurn useCases steps)
    (hanswered : ∀ i listener event,
      Entry.act i (.offer listener event .pending) ∉ (desk.floor useCases steps).log) :
    offers (desk.floor useCases steps).log =
      fanOut desk.listeners (chronicle (desk.floor useCases steps).log) := by
  induction h with
  | nil => rfl
  | @call steps i answers _ hfresh hdone ih =>
    have hfloor : desk.floor useCases (steps ++ answers.map fun x => (i, x)) =
        (answers.map (Move.step i)).foldl Floor.move (desk.floor useCases steps) := by
      unfold Desk.floor Floor.play
      rw [List.map_append, List.foldl_append, List.map_map]
      rfl
    have hmoves : ∀ m ∈ answers.map (Move.step i), ∃ x, m = .step i x := by
      intro m hm
      obtain ⟨x, -, rfl⟩ := List.mem_map.1 hm
      exact ⟨x, rfl⟩
    obtain ⟨mine, hlog, hmine⟩ := exists_log_foldl (desk.floor useCases steps) hmoves
    rw [← hfloor] at hlog
    have hothers : ∀ e ∈ (desk.floor useCases steps).log, ¬ e.IsBy i := by
      refine not_isBy_play fun x hmem => ?_
      obtain ⟨step, hstep, heq⟩ := List.mem_map.1 hmem
      cases heq
      exact hfresh (List.mem_map.2 ⟨step, hstep, rfl⟩)
    obtain ⟨stage, hrun, hkeeps, -⟩ :=
      desk.exists_run_floor useCases (steps ++ answers.map fun x => (i, x))
    obtain ⟨answer, hanswer⟩ := Workflow.eq_done_of_isDone hdone
    have hend := (hkeeps i).of_done hanswer
    have hown : stepsOf i (desk.floor useCases (steps ++ answers.map fun x => (i, x))).log =
        stepsOf i mine := by
      rw [hlog, stepsOf_append, stepsOf_of_not_isBy hothers, List.append_nil]
    have hlast : offers mine = fanOut desk.listeners (chronicle mine) := by
      have hanswers : ∀ listener event delivery, .offer listener event delivery ∈
          stepsOf i (desk.floor useCases (steps ++ answers.map fun x => (i, x))).log →
          (delivery = .pending ↔ Delivery.accepted = .pending) := by
        refine fun listener event delivery hmem => ⟨fun hpending => ?_, nofun⟩
        subst hpending
        exact absurd (mem_stepsOf.1 hmem) (hanswered i listener event)
      have hoffers : _ = rounds (fun _ _ => .accepted) desk.listeners _ :=
        Course.offers_of_ends (hrun.trail i) hend hanswers
      rw [rounds_accepted, hown] at hoffers
      unfold offers chronicle
      rw [allSteps_of_isBy hmine, List.filterMap_reverse, List.filterMap_reverse, hoffers]
    rw [hlog, offers_append, chronicle_append, fanOut_append, hlast, ih]
    intro j listener event hmem
    refine hanswered j listener event ?_
    rw [hlog]
    exact List.mem_append_right mine hmem

/-- **The events tell the story of each payment.** Any calls of the service, one after the other,
with listeners that answer. What was offered of a payment is one list of events, each of them to
every listener: that which the accepted saves have recorded. These events tell the story of the stored
payment. Their changes are begun, and then nothing, or a failure, or a completion with a partial and a
final refund at most; every event names the payment, its owner, provider, amount, currency and order;
the refunds add up to what is stored, and those are partial after which a balance is left; and
replaying the events gives the stored transaction, sum and dates, and the reason if the payment has
failed. Nothing was told of a payment that is not stored. -/
theorem events_tell_story [DecidableEq ι] (desk : Desk γ π) (useCases : ι → UseCase)
    {steps : List (ι × Outside)} (hturns : desk.InTurn useCases steps)
    (hanswered : ∀ i listener event,
      Entry.act i (.offer listener event .pending) ∉ (desk.floor useCases steps).log) :
    let floor := desk.floor useCases steps
    ∀ id,
      (offers floor.log).filter (fun offer => offer.2.payment = id) =
        fanOut desk.listeners (storyOf id floor.log) ∧
      (∀ p, floor.store.find? id = some p → p.ToldBy (storyOf id floor.log)) ∧
      (floor.store.find? id = none → storyOf id floor.log = []) := by
  intro floor id
  obtain ⟨stage, hrun, -, hkept⟩ := desk.exists_run_floor useCases steps
  have hstored : floor.store.find? id = (writesOf id floor.log).head? :=
    desk.find?_floor useCases steps id
  obtain ⟨htold, hnothing⟩ := told_of_run hrun hkept id
  refine ⟨?_, fun p hp => htold p (hstored ▸ hp), fun hnone => hnothing ?_⟩
  · rw [hturns.offers_eq hanswered, filter_fanOut]
    rfl
  · rw [hstored] at hnone
    exact List.head?_eq_none_iff.1 hnone

/-! ### The longest story -/

open scoped Trial

/-- Enough steps for a call to come to its end, with listeners that answer so. -/
def UseCase.turn (i : Fin 5) (delivery : Delivery) : List (Fin 5 × Outside) :=
  ((List.range 16).map fun n => ⟨⟨n, i.val⟩, .first, .ok (.approved none), delivery⟩).map fun x =>
    (i, x)

/-- The calls of the longest life of a payment, one after the other. The listeners refuse what the
third one tells. -/
def UseCase.turns : List (Fin 5 × Outside) :=
  [] ++ turn 0 .accepted ++ turn 1 .accepted ++ turn 2 (.refused (.transport "down")) ++
    turn 3 .accepted ++ turn 4 .accepted

theorem UseCase.inTurn_turns : Desk.heard.InTurn UseCase.lifelong UseCase.turns :=
  .call (.call (.call (.call (.call .nil (by decide) (by decide +kernel)) (by decide)
    (by decide +kernel)) (by decide) (by decide +kernel)) (by decide) (by decide +kernel))
    (by decide) (by decide +kernel)

/-- The longest story has four events. -/
theorem events_tell_story_lifelong :
    let floor := Desk.heard.floor UseCase.lifelong UseCase.turns
    let story := storyOf .first floor.log
    Desk.heard.InTurn UseCase.lifelong UseCase.turns ∧
    (∀ i listener event, Entry.act i (.offer listener event .pending) ∉ floor.log) ∧
    story.map Event.topic =
      ["payment.initiated", "payment.completed", "payment.refunded", "payment.refunded"] ∧
    (offers floor.log).filter (fun offer => offer.2.payment = .first) =
      fanOut Desk.heard.listeners story ∧
    ∃ p, floor.store.find? .first = some p ∧ p.status = .refunded ∧ p.ToldBy story := by
  have hall : allDeliveries (fun _ _ delivery => decide (delivery ≠ .pending))
      (Desk.heard.floor UseCase.lifelong UseCase.turns).log = true := by decide +kernel
  have hanswered : ∀ i listener event, Entry.act i (.offer listener event .pending) ∉
      (Desk.heard.floor UseCase.lifelong UseCase.turns).log := fun i listener event hmem =>
    of_decide_eq_true (allDeliveries_iff.1 hall i listener event _ hmem) rfl
  have hstatus : ((Desk.heard.floor UseCase.lifelong UseCase.turns).store.find? .first).map
      (fun p => p.status) = some .refunded := by decide +kernel
  obtain ⟨hoffers, htold, -⟩ := events_tell_story Desk.heard UseCase.lifelong
    UseCase.inTurn_turns hanswered .first
  obtain ⟨p, hp, hrefunded⟩ := Option.map_eq_some_iff.1 hstatus
  exact ⟨UseCase.inTurn_turns, hanswered, by decide +kernel, hoffers, p, hp, hrefunded, htold p hp⟩

end Paydesk
