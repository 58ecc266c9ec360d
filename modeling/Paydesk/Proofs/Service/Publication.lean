import Paydesk.Proofs.Service.Lifecycle
import Paydesk.Proofs.Service.Listeners
import Mathlib.Data.List.Nodup

/-!
# Events are published once, after the save

What listeners are told in a run of any calls of the service: `published_once`.

1. An event is offered by a call that has stored the payment that has recorded it
   (`Course.exists_save_of_offer`).
2. What a call has offered, and what it has yet to offer, is what its save has recorded, to everyone
   up to the first listener that never answers (`Course.Stage.Told`, `told_of_trail`).
3. A save records one event at most, of the state that it stores (`Course.Saves.events`). No payment
   comes back to a state, so no event is recorded twice (`nodup_recorded`).
-/

namespace Paydesk

variable {ι γ π : Type}

/-! ## What is recorded and what is offered -/

/-- The state that a change leads to. -/
def Change.status : Change → Status
  | .initiated => .pending
  | .completed _ => .completed
  | .failed _ => .failed
  | .refunded _ _ isPartial => if isPartial then .partiallyRefunded else .refunded

/-- The events that an accepted save has recorded, with the one who has saved. -/
def Entry.recorded : Entry ι γ π → List (ι × Event)
  | .act i (.save q (.ok _)) => q.events.map fun event => (i, event)
  | _ => []

/-- All events that were recorded by accepted saves. -/
def recorded (log : List (Entry ι γ π)) : List (ι × Event) :=
  log.flatMap Entry.recorded

/-- The event that is offered, and the listener. -/
def Act.offered : Act γ π → Option (π × Event)
  | .offer listener event _ => some (listener, event)
  | _ => none

/-- What a use case has offered, the oldest first. -/
def offeredBy [DecidableEq ι] (i : ι) (log : List (Entry ι γ π)) : List (π × Event) :=
  ((stepsOf i log).filterMap Act.offered).reverse

/-- The listener to whom an event is offered. -/
def Entry.offered (event : Event) : Entry ι γ π → Option π
  | .act _ (.offer listener offered _) => if offered = event then some listener else none
  | _ => none

/-- Those to whom an event was offered by anybody, the first one first. -/
def toldOf (event : Event) (log : List (Entry ι γ π)) : List π :=
  (log.filterMap (Entry.offered event)).reverse

/-- Those to whom an event is offered: everyone up to the first that never answers. -/
def audience (behaves : π → Event → Delivery) (event : Event) : List π → List π
  | [] => []
  | listener :: rest =>
    listener :: match behaves listener event with
      | .pending => []
      | _ => audience behaves event rest

/-- Every event in its order, to each of its listeners in their order. -/
def rounds (behaves : π → Event → Delivery) (listeners : List π) (events : List Event) :
    List (π × Event) :=
  events.flatMap fun event => (audience behaves event listeners).map fun listener =>
    (listener, event)

theorem mem_recorded {i : ι} {event : Event} {log : List (Entry ι γ π)} :
    (i, event) ∈ recorded log ↔
      ∃ q version, Entry.act i (.save q (.ok version)) ∈ log ∧ event ∈ q.events := by
  unfold recorded
  rw [List.mem_flatMap]
  constructor
  · rintro ⟨e, he, hmem⟩
    unfold Entry.recorded at hmem
    split at hmem
    · rename_i j q version
      obtain ⟨event', hevent, heq⟩ := List.mem_map.1 hmem
      cases heq
      exact ⟨q, version, he, hevent⟩
    · exact absurd hmem List.not_mem_nil
  · rintro ⟨q, version, he, hevent⟩
    exact ⟨_, he, List.mem_map.2 ⟨event, hevent, rfl⟩⟩

/-! ## What a call offers -/

namespace Course

variable {desk : Desk γ π} {u : UseCase} {acts older newer : List (Act γ π)} {s t : Stage π}
  {behaves : π → Event → Delivery}

/-- What an agenda leaves to offer. -/
def due (behaves : π → Event → Delivery) (agenda : Agenda π) : List (π × Event) :=
  agenda.flatMap fun round => (audience behaves round.2 round.1).map fun listener =>
    (listener, round.2)

theorem due_tidy (agenda : Agenda π) : due behaves agenda.tidy = due behaves agenda := by
  induction agenda with
  | nil => rfl
  | cons round rest ih =>
    obtain ⟨_ | ⟨listener, listeners⟩, event⟩ := round
    · rw [Agenda.tidy_nil_cons, ih]
      rfl
    · rw [Agenda.tidy_cons_cons]

theorem due_opened (listeners : List π) (events : List Event) :
    due behaves (Agenda.opened listeners events) = rounds behaves listeners events := by
  unfold Agenda.opened
  rw [due_tidy, due, List.flatMap_map]
  rfl

/-- The next offer is the first that is due. -/
theorem due_after (listener : π) (listeners : List π) (event : Event) (later : Agenda π) :
    due behaves ((listener :: listeners, event) :: later) =
      (listener, event) :: due behaves (.after listeners event later (behaves listener event)) := by
  have hfirst : due behaves ((listener :: listeners, event) :: later) =
      (audience behaves event (listener :: listeners)).map (fun l => (l, event)) ++
        due behaves later := List.flatMap_cons
  rw [hfirst, audience]
  cases behaves listener event with
  | pending =>
    show _ = _ :: due behaves (Agenda.tidy later)
    rw [due_tidy]
    rfl
  | _ =>
    show _ = _ :: due behaves (Agenda.tidy ((listeners, event) :: later))
    rw [due_tidy]
    rfl

/-- It only matters whether the listener answers. -/
theorem Agenda.after_congr {d d' : Delivery} (h : d = .pending ↔ d' = .pending)
    (listeners : List π) (event : Event) (later : Agenda π) :
    Agenda.after listeners event later d = Agenda.after listeners event later d' := by
  cases d <;> cases d' <;> first | rfl | simp at h

/-- What was offered so far is the beginning of what is to be offered, and the agenda is the
rest. -/
def Stage.Told (behaves : π → Event → Delivery) (listeners : List π) (offers : List (π × Event)) :
    Stage π → Prop
  | .telling q _ agenda => offers ++ due behaves agenda = rounds behaves listeners q.events
  | _ => offers = []

theorem Stage.told_saved (listeners : List π) (q : Payment) (receipt : Option Receipt)
    (version : Except Conflict Nat) :
    (Stage.saved listeners q receipt version).Told behaves listeners [] := by
  cases version with
  | error why => rfl
  | ok version => exact due_opened listeners q.events

theorem Step.told {a : Act γ π} {offers : List (π × Event)} (h : Step desk s a t)
    (hs : s.Told behaves desk.listeners offers)
    (hanswer : ∀ listener event delivery, a = .offer listener event delivery →
      (delivery = .pending ↔ behaves listener event = .pending)) :
    t.Told behaves desk.listeners (offers ++ a.offered.toList) := by
  cases h with
  | warn => exact (List.append_nil offers).symm ▸ hs
  | @offer q receipt listener listeners event later delivery =>
    show (offers ++ [(listener, event)]) ++ _ = _
    rw [Agenda.after_congr (hanswer _ _ _ rfl), List.append_assoc, List.singleton_append,
      ← due_after]
    exact hs
  | create =>
    obtain rfl : offers = [] := hs
    exact Stage.told_saved _ _ _ _
  | change _ _ =>
    obtain rfl : offers = [] := hs
    exact Stage.told_saved _ _ _ _
  | refund _ =>
    obtain rfl : offers = [] := hs
    exact Stage.told_saved _ _ _ _
  | _ =>
    obtain rfl : offers = [] := hs
    rfl

/-- What a call has offered and has yet to offer is what it has recorded. -/
theorem told_of_trail (h : Trail (Step desk) (.idle u) acts t)
    (hanswer : ∀ listener event delivery, .offer listener event delivery ∈ acts →
      (delivery = .pending ↔ behaves listener event = .pending)) :
    t.Told behaves desk.listeners (acts.filterMap Act.offered).reverse := by
  induction h with
  | nil => rfl
  | @step acts t u a _ hpermitted ih =>
    have hnow := hpermitted.told
      (ih fun listener event delivery hmem => hanswer _ _ _ (List.mem_cons_of_mem a hmem))
      fun listener event delivery heq => hanswer _ _ _ (heq ▸ List.mem_cons_self)
    have hlist : ((a :: acts).filterMap Act.offered).reverse =
        (acts.filterMap Act.offered).reverse ++ a.offered.toList := by
      cases ha : a.offered with
      | none => rw [List.filterMap_cons_none ha]; exact (List.append_nil _).symm
      | some offer => rw [List.filterMap_cons_some ha, List.reverse_cons]; rfl
    rw [hlist]
    exact hnow

theorem offers_of_ends {answer : Answer} (h : Trail (Step desk) (.idle u) acts t)
    (hend : Ends desk t answer)
    (hanswer : ∀ listener event delivery, .offer listener event delivery ∈ acts →
      (delivery = .pending ↔ behaves listener event = .pending)) :
    (acts.filterMap Act.offered).reverse =
      rounds behaves desk.listeners ((acts.filterMap Act.stored).reverse.flatMap Payment.events) := by
  have htold := told_of_trail h hanswer
  rw [stored_of_trail h]
  rcases hend.cases with ⟨-, q, receipt, rfl⟩ | ⟨-, hfails⟩
  · have hall : (acts.filterMap Act.offered).reverse ++ [] =
        rounds behaves desk.listeners q.events := htold
    rw [List.append_nil] at hall
    rw [hall]
    simp [Stage.stored]
  · cases hfails <;> exact htold

theorem mem_of_mem_tidy {agenda : Agenda π} {round : List π × Event} (h : round ∈ agenda.tidy) :
    round ∈ agenda :=
  (List.dropWhile_sublist _).subset h

/-- What is on the agenda was recorded by the payment that was saved. -/
def Stage.Listed : Stage π → Prop
  | .telling q _ agenda => ∀ round ∈ agenda, round.2 ∈ q.events
  | _ => True

theorem Stage.listed_saved (listeners : List π) (q : Payment) (receipt : Option Receipt)
    (version : Except Conflict Nat) : (Stage.saved listeners q receipt version).Listed := by
  cases version with
  | error why => trivial
  | ok version =>
    intro round hround
    obtain ⟨event, hevent, rfl⟩ := List.mem_map.1 (mem_of_mem_tidy hround)
    exact hevent

theorem Step.listed {a : Act γ π} (h : Step desk s a t) (hs : s.Listed) : t.Listed := by
  cases h with
  | warn => exact hs
  | @offer q receipt listener listeners event later delivery =>
    intro round hround
    have hmem : round ∈ (listeners, event) :: later := by
      cases delivery with
      | pending => exact List.mem_cons_of_mem _ (mem_of_mem_tidy hround)
      | _ => exact mem_of_mem_tidy hround
    rcases List.mem_cons.1 hmem with rfl | hlater
    · exact hs (listener :: listeners, event) List.mem_cons_self
    · exact hs round (List.mem_cons_of_mem _ hlater)
  | create => exact Stage.listed_saved _ _ _ _
  | change _ _ => exact Stage.listed_saved _ _ _ _
  | refund _ => exact Stage.listed_saved _ _ _ _
  | _ => trivial

theorem exists_save_of_offer {listener : π} {event : Event} {delivery : Delivery}
    (h : Trail (Step desk) (.idle u) (newer ++ .offer listener event delivery :: older) t) :
    ∃ q version, .save q (.ok version) ∈ older ∧ event ∈ q.events := by
  obtain ⟨m, m', holder, hoffer, -⟩ := h.of_append_cons
  have hlisted := holder.always (P := Stage.Listed) trivial fun _ _ _ hs hstep => hstep.listed hs
  have hbacked := backed_of_trail holder
  cases hoffer with
  | offer =>
    obtain ⟨p, version, rfl, hsaved⟩ := hbacked
    exact ⟨p, version, hsaved, hlisted _ List.mem_cons_self⟩

end Course

/-! ## What a save records -/

/-- A command on a loaded payment records one event at most, of the state that it leads to. -/
theorem Payment.Call.Gives.events {p q : Payment} {c : Payment.Call}
    {plan : Option Payment.RefundPlan} (h : c.Gives p q plan) (hquiet : p.events = []) :
    q.events = [] ∨
      ∃ event, q.events = [event] ∧ event.payment = q.id ∧ event.change.status = q.status := by
  have hrecord : ∀ (r : Payment) (now : Instant) (change : Change), r.events = [] →
      change.status = r.status → ∃ event, (r.record now change).events = [event] ∧
        event.payment = (r.record now change).id ∧
        event.change.status = (r.record now change).status := by
    intro r now change hr hstatus
    refine ⟨r.eventOf now change, ?_, rfl, hstatus⟩
    show r.events ++ [_] = _
    rw [hr]
    rfl
  cases h with
  | startProcessing _ => exact .inl hquiet
  | complete _ _ => exact .inr (hrecord _ _ _ hquiet rfl)
  | fail _ => exact .inr (hrecord _ _ _ hquiet rfl)
  | cancel _ => exact .inl hquiet
  | refund hplan _ =>
    obtain ⟨-, -, -, -, -, htarget, -⟩ := Payment.planRefund_ok hplan
    exact .inr (hrecord _ _ _ hquiet htarget.symm)
  | updateMetadata => exact .inl hquiet
  | commitEvents => exact .inl rfl
  | reload => exact .inl rfl

theorem Course.Saves.events {desk : Desk γ π} {u : UseCase} {older : List (Act γ π)} {q : Payment}
    {receipt : Option Course.Receipt} (h : Course.Saves desk u older q receipt) :
    q.events = [] ∨
      ∃ event, q.events = [event] ∧ event.payment = q.id ∧ event.change.status = q.status := by
  cases h with
  | create _ _ _ _ hmade =>
    subst hmade
    exact .inr ⟨_, rfl, rfl, rfl⟩
  | change hloaded _ _ _ hgives => exact hgives.events hloaded.quiet
  | refund _ hgranted _ hgives =>
    obtain ⟨reply, hordered, -⟩ := hgranted
    exact hgives.events hordered.loaded.quiet

/-! ## Runs -/

section Runs

variable [DecidableEq ι] {desk : Desk γ π} {useCases : ι → UseCase} {log : List (Entry ι γ π)}
  {stage : ι → Course.Stage π}

theorem events_of_mem_save
    (h : Run (Course.Step desk) (fun i => .idle (useCases i)) log stage) {i : ι} {q : Payment}
    {version : Nat} (hmem : Entry.act i (.save q (.ok version)) ∈ log) :
    q.events = [] ∨
      ∃ event, q.events = [event] ∧ event.payment = q.id ∧ event.change.status = q.status := by
  obtain ⟨_, _, hsaves⟩ := Course.exists_saves (h.trail i) (mem_stepsOf.2 hmem)
  exact hsaves.events

theorem payment_of_mem_save (h : Run (Course.Step desk) (fun i => .idle (useCases i)) log stage)
    {i : ι} {q : Payment} {version : Nat} (hmem : Entry.act i (.save q (.ok version)) ∈ log) :
    ∀ e ∈ q.events, e.payment = q.id := by
  intro e he
  rcases events_of_mem_save h hmem with hnone | ⟨event, hone, hid, -⟩
  · rw [hnone] at he
    cases he
  · rw [hone] at he
    rw [List.mem_singleton.1 he]
    exact hid

theorem mem_recorded_of_offer
    (h : Run (Course.Step desk) (fun i => .idle (useCases i)) log stage) {i : ι} {listener : π}
    {event : Event} {delivery : Delivery}
    (hmem : Entry.act i (.offer listener event delivery) ∈ log) : (i, event) ∈ recorded log := by
  obtain ⟨newer, older, hsteps⟩ := List.append_of_mem (mem_stepsOf.2 hmem)
  obtain ⟨q, version, hsaved, hevent⟩ := Course.exists_save_of_offer (hsteps ▸ h.trail i)
  have hsaved : Act.save q (.ok version) ∈ stepsOf i log := by
    rw [hsteps]
    exact List.mem_append_right _ (List.mem_cons_of_mem _ hsaved)
  exact mem_recorded.2 ⟨q, version, mem_stepsOf.1 hsaved, hevent⟩

omit [DecidableEq ι] in
/-- The recorded events tell of stored states, each of another one. -/
theorem recorded_sublist_writes
    (hevents : ∀ i q version, Entry.act i (.save q (.ok version)) ∈ log → q.events = [] ∨
      ∃ event, q.events = [event] ∧ event.payment = q.id ∧ event.change.status = q.status) :
    ((recorded log).map fun r => (r.2.payment, r.2.change.status)).Sublist
      ((writes log).map fun p => (p.id, p.status)) := by
  induction log with
  | nil => exact .slnil
  | cons e log ih =>
    have hrest := ih fun i q version hmem => hevents i q version (List.mem_cons_of_mem e hmem)
    have hsplit : recorded (e :: log) = e.recorded ++ recorded log := List.flatMap_cons
    rw [hsplit]
    rcases e.written_cases with hwritten | ⟨i, q, version, rfl⟩
    · have hnothing : e.recorded = [] := by
        unfold Entry.recorded
        split
        · cases hwritten
        · rfl
      rw [hnothing, writes_cons_of_none hwritten]
      exact hrest
    · rw [writes_save]
      have hown : (Entry.act i (.save q (.ok version)) : Entry ι γ π).recorded =
          q.events.map fun event => (i, event) := rfl
      rw [hown]
      rcases hevents i q version List.mem_cons_self with hnone | ⟨event, hone, hid, hstatus⟩
      · rw [hnone]
        exact hrest.cons _
      · rw [hone]
        show ((event.payment, event.change.status) :: _).Sublist _
        rw [hid, hstatus]
        exact hrest.cons_cons _

theorem nodup_recorded (h : Run (Course.Step desk) (fun i => .idle (useCases i)) log stage)
    (hkept : ∀ id, Entry.delete id ∉ log) : ((recorded log).map Prod.snd).Nodup := by
  have hstates : ((writes log).map fun p => (p.id, p.status)).Nodup := by
    refine nodup_of_filter fun id => ?_
    have hfollows := (Course.history_of_run h hkept id).follows
    have hnodup := Payment.nodup_status_of_follows (List.isChain_reverse.2 hfollows)
    rwa [List.map_reverse, List.nodup_reverse] at hnodup
  have hevents := recorded_sublist_writes fun i q version hmem => events_of_mem_save h hmem
  refine List.Nodup.of_map (fun event : Event => (event.payment, event.change.status)) ?_
  rw [List.map_map]
  exact hevents.nodup hstates

/-- An event that only one caller offers is told to those to whom this caller offers it. -/
theorem toldOf_eq {i : ι} {event : Event}
    (h : ∀ j listener delivery, Entry.act j (.offer listener event delivery) ∈ log → j = i) :
    toldOf event log = (offeredBy i log).filterMap fun offer =>
      if offer.2 = event then some offer.1 else none := by
  unfold toldOf offeredBy stepsOf
  rw [List.filterMap_reverse, List.filterMap_filterMap, List.filterMap_filterMap]
  congr 1
  refine List.filterMap_congr fun e he => ?_
  cases e with
  | delete id => rfl
  | act j a =>
    by_cases hij : j = i
    · subst hij
      rw [Entry.stepOf_act_self]
      cases a <;> rfl
    · rw [Entry.stepOf_act_of_ne hij]
      cases a with
      | offer listener offered delivery =>
        refine if_neg fun heq => hij (h j listener delivery ?_)
        exact heq ▸ he
      | _ => rfl

/-- What a call has offered whose save was accepted, and to whom its events were offered. -/
theorem offeredBy_of_save {behaves : π → Event → Delivery}
    (h : Run (Course.Step desk) (fun i => .idle (useCases i)) log stage)
    (hanswered : AnsweredBy behaves log) {i : ι} {q : Payment} {version : Nat}
    (hsaved : Entry.act i (.save q (.ok version)) ∈ log) :
    offeredBy i log <+: rounds behaves desk.listeners q.events ∧
      ∀ answer, Course.Ends desk (stage i) answer →
        offeredBy i log = rounds behaves desk.listeners q.events := by
  have htrail := h.trail i
  have htold : (stage i).Told behaves desk.listeners _ :=
    Course.told_of_trail htrail fun listener event delivery hmem => by
      rw [hanswered i listener event delivery (mem_stepsOf.1 hmem)]
  have hstored := Course.stored_of_trail htrail
  have hmem : q.withVersion version ∈ (stepsOf i log).filterMap Act.stored :=
    List.mem_filterMap.2 ⟨_, mem_stepsOf.2 hsaved, rfl⟩
  rw [hstored] at hmem
  generalize stage i = t at htold hmem
  -- only who tells of a payment has stored one
  cases t with
  | telling q' receipt agenda =>
    obtain rfl : q.withVersion version = q' := List.mem_singleton.1 hmem
    refine ⟨⟨_, htold⟩, fun answer hend => ?_⟩
    rcases hend.cases with ⟨-, _, _, heq⟩ | ⟨-, hfails⟩
    · cases heq
      exact (List.append_nil _).symm.trans htold
    · cases hfails
  | _ => exact absurd hmem List.not_mem_nil

/-- The listeners to whom an event of a call was offered by anybody are those to whom the call had to
offer it. -/
theorem toldOf_of_save {behaves : π → Event → Delivery}
    (h : Run (Course.Step desk) (fun i => .idle (useCases i)) log stage)
    (hkept : ∀ id, Entry.delete id ∉ log) {i : ι} {q : Payment} {version : Nat}
    (hsaved : Entry.act i (.save q (.ok version)) ∈ log)
    (hoffered : offeredBy i log = rounds behaves desk.listeners q.events) {event : Event}
    (hevent : event ∈ q.events) : toldOf event log = audience behaves event desk.listeners := by
  have hrecorded : (i, event) ∈ recorded log := mem_recorded.2 ⟨q, version, hsaved, hevent⟩
  have honly : ∀ j listener delivery,
      Entry.act j (.offer listener event delivery) ∈ log → j = i := by
    intro j listener delivery hmem
    exact congrArg Prod.fst (List.inj_on_of_nodup_map (nodup_recorded h hkept)
      (mem_recorded_of_offer h hmem) hrecorded rfl)
  have hsingle : q.events = [event] := by
    rcases events_of_mem_save h hsaved with hnone | ⟨event', hone, -⟩
    · rw [hnone] at hevent
      exact absurd hevent List.not_mem_nil
    · rw [hone] at hevent ⊢
      rw [List.mem_singleton.1 hevent]
  rw [toldOf_eq honly, hoffered, hsingle]
  simp [rounds, List.filterMap_map]

end Runs

/-- The floor after steps of calls of the service. -/
def Desk.floor [DecidableEq ι] (desk : Desk γ π) (useCases : ι → UseCase)
    (steps : List (ι × Outside)) : Floor ι γ π Answer :=
  Floor.play (fun i => (useCases i).workflow desk) (steps.map fun step => .step step.1 step.2)

/-- Whatever the steps are, the calls leave a run of their courses, and nothing is taken out. -/
theorem Desk.exists_run_floor [DecidableEq ι] (desk : Desk γ π) (useCases : ι → UseCase)
    (steps : List (ι × Outside)) :
    ∃ stage, Run (Course.Step desk) (fun i => .idle (useCases i)) (desk.floor useCases steps).log
        stage ∧
      (∀ i, ((desk.floor useCases steps).running i).Keeps (Course.Step desk) (Course.Ends desk)
        (stage i)) ∧
      ∀ id, Entry.delete id ∉ (desk.floor useCases steps).log := by
  obtain ⟨stage, hrun, hkeeps⟩ := exists_run_play (fun i => Course.keeps desk (useCases i))
    (steps.map fun step => .step step.1 step.2)
  exact ⟨stage, hrun, hkeeps, delete_not_mem_play _ steps⟩

theorem Desk.find?_floor [DecidableEq ι] (desk : Desk γ π) (useCases : ι → UseCase)
    (steps : List (ι × Outside)) (id : PaymentId) :
    (desk.floor useCases steps).store.find? id =
      (writesOf id (desk.floor useCases steps).log).head? := by
  obtain ⟨stage, hrun, -, hkept⟩ := desk.exists_run_floor useCases steps
  show (Floor.play _ _).store.find? id = _
  rw [store_play]
  exact (Course.orderly_run hrun hkept).find?_eq_head? hkept id

/-- **Events are published once, after the save.** Any calls of the service in any order of their
steps. An event is offered after the save of the payment that has recorded it was accepted. What a
call offers is what its save has recorded, event after event, each to the listeners in their order up
to the first that never answers, whether or not others refuse it; and once the call is done, everyone
of these has been offered the event exactly once by all calls together, for no event is recorded
twice. Stored and loaded payments have no events. With other listeners, or listeners that answer in
another way, the same steps on the store, the clock and the gateways lead to the same store and the
same answers, and they can be taken whatever the listeners do. -/
theorem published_once [DecidableEq ι] (desk : Desk γ π) (useCases : ι → UseCase)
    (steps : List (ι × Outside)) :
    let floor := desk.floor useCases steps
    (∀ later earlier i listener event delivery,
      floor.log = later ++ .act i (.offer listener event delivery) :: earlier →
      ∃ q version, Entry.act i (.save q (.ok version)) ∈ earlier ∧ event ∈ q.events) ∧
    (∀ behaves, AnsweredBy behaves floor.log → ∀ i q version,
      Entry.act i (.save q (.ok version)) ∈ floor.log →
      offeredBy i floor.log <+: rounds behaves desk.listeners q.events ∧
      ((floor.running i).isDone = true →
        offeredBy i floor.log = rounds behaves desk.listeners q.events ∧
        ∀ event ∈ q.events, toldOf event floor.log = audience behaves event desk.listeners)) ∧
    ((recorded floor.log).map Prod.snd).Nodup ∧
    (∀ id p, floor.store.find? id = some p → p.events = []) ∧
    (∀ i id p, Entry.act i (.find id (some p)) ∈ floor.log → p.events = []) ∧
    ∀ desk' : Desk γ π, desk'.registry = desk.registry →
      (∀ steps', effects (desk'.floor useCases steps').log = effects floor.log →
        (desk'.floor useCases steps').store = floor.store ∧
        ∀ i answer answer', floor.running i = .done answer →
          (desk'.floor useCases steps').running i = .done answer' → answer' = answer) ∧
      ∀ behaves (callers : List ι), ∃ steps',
        let floor' := desk'.floor useCases steps'
        AnsweredBy behaves floor'.log ∧ effects floor'.log = effects floor.log ∧
          floor'.store = floor.store ∧
          ∀ i ∈ callers, ∀ answer, floor.running i = .done answer →
            floor'.running i = .done answer := by
  intro floor
  obtain ⟨stage, hrun, hkeeps, hkept⟩ := desk.exists_run_floor useCases steps
  have hstore : floor.store = replay floor.log := store_play _ _
  refine ⟨?_, ?_, nodup_recorded hrun hkept, ?_, ?_, fun desk' hregistry => ⟨?_, ?_⟩⟩
  · intro later earlier i listener event delivery hlog
    have htrail := hrun.trail i
    rw [hlog, stepsOf_append, stepsOf_act_self] at htrail
    obtain ⟨q, version, hsaved, hevent⟩ := Course.exists_save_of_offer htrail
    exact ⟨q, version, mem_stepsOf.1 hsaved, hevent⟩
  · intro behaves hanswered i q version hsaved
    obtain ⟨hbegins, hall⟩ := offeredBy_of_save hrun hanswered hsaved
    refine ⟨hbegins, fun hdone => ?_⟩
    obtain ⟨answer, hanswer⟩ := Workflow.eq_done_of_isDone hdone
    have hoffered := hall answer ((hkeeps i).of_done hanswer)
    exact ⟨hoffered, fun event hevent => toldOf_of_save hrun hkept hsaved hoffered hevent⟩
  · intro id p hp
    exact (find?_replay (hstore ▸ hp)).2
  · intro i id p hmem
    obtain ⟨later, earlier, hlog⟩ := List.append_of_mem hmem
    have hfits : some p = (replay earlier).find? id := fits_of_log hlog
    exact (find?_replay hfits.symm).2
  · intro steps' hsame
    refine ⟨store_eq_of_effects_eq hsame, fun i answer answer' hi hi' => ?_⟩
    have halike : Workflow.Alike (floor.running i) ((desk'.floor useCases steps').running i) :=
      alike_of_effects_eq (fun i => (useCases i).workflow desk)
        (fun i => (useCases i).workflow desk') (UseCase.alike hregistry (useCases i)) hsame.symm
    rw [hi, hi'] at halike
    exact halike.eq_of_done.symm
  · intro behaves callers
    exact exists_play_answered (fun i => UseCase.alike hregistry (useCases i)) behaves steps callers

/-! ### A listener that never answers -/

open scoped Trial

def Desk.heard : Desk Unit (Fin 4) where
  registry := Registry.empty.register ⟨.paypal, some ()⟩
  listeners := [0, 1, 2, 3]
  publishTimeoutMillis := 5000

/-- The second listener refuses every event, and the third one never answers. -/
def Delivery.mixed (listener : Fin 4) (_ : Event) : Delivery :=
  match listener with
  | 1 => .refused (.transport "down")
  | 2 => .pending
  | _ => .accepted

def UseCase.announcing : Fin 1 → UseCase
  | 0 => .create "shop" ⟨"paypal", .ofNat 100, "usd", "first", none, none⟩

/-- The payment is made and the listeners are told. -/
def UseCase.announced : List (Fin 1 × Outside) :=
  [.accepted, .accepted, .accepted, .accepted, .refused (.transport "down"), .accepted, .pending,
    .accepted].map fun delivery => (0, ⟨default, .first, .error .timedOut, delivery⟩)

/-- The call is done though the third listener never answers, and the fourth one is not told. -/
theorem published_once_mixed :
    let floor := Desk.heard.floor UseCase.announcing UseCase.announced
    AnsweredBy Delivery.mixed floor.log ∧ (floor.running 0).isDone = true ∧
      ∃ event, (0, event) ∈ recorded floor.log ∧ toldOf event floor.log = [0, 1, 2] := by
  have hanswered : AnsweredBy Delivery.mixed
      (Desk.heard.floor UseCase.announcing UseCase.announced).log := by decide +kernel
  have hdone : ((Desk.heard.floor UseCase.announcing UseCase.announced).running 0).isDone = true := by
    decide +kernel
  have hrecorded :
      (recorded (Desk.heard.floor UseCase.announcing UseCase.announced).log).length = 1 := by
    decide +kernel
  have honce := (published_once Desk.heard UseCase.announcing UseCase.announced).2.1
  -- from here on the run itself does not matter
  generalize Desk.heard.floor UseCase.announcing UseCase.announced = floor
    at hanswered hdone hrecorded honce ⊢
  obtain ⟨⟨i, event⟩, hone⟩ := List.length_eq_one_iff.1 hrecorded
  obtain rfl : i = 0 := Subsingleton.elim i 0
  have hmem : (0, event) ∈ recorded floor.log := by
    rw [hone]
    exact List.mem_cons_self
  obtain ⟨q, version, hsaved, hevent⟩ := mem_recorded.1 hmem
  obtain ⟨-, hthen⟩ := honce Delivery.mixed hanswered 0 q version hsaved
  exact ⟨hanswered, hdone, event, hmem, (hthen hdone).2 event hevent⟩

end Paydesk
