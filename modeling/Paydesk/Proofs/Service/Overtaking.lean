import Paydesk.Proofs.Service.Story

/-!
# In which order events are published

A call saves and then publishes, and nothing holds the two together. So another call may save and
publish in between, and what listeners are told last is then not what was stored last. When that
happens, and when not, is said by `delivered_in_order`.

1. The events of a payment with the versions that have recorded them are its annals; their versions
   grow (`versions_lt_of_annals`).
2. Who saves a payment is overtaken if somebody else saves it before the events of the first are
   published (`unovertaken`). If nobody is, the offers of the payment are those of its savers, one
   saver after the other (`offersOf_eq`), as the story is (`storyOf_eq`).
3. In any order of the steps, an event comes before one of an earlier version only if that one had
   not been offered when the later version was saved (`overtaken_of_offer`).
-/

namespace Paydesk

variable {ι γ π : Type}

/-! ## Annals -/

/-- The events of a payment that an entry records, with the version under which it is stored. -/
def Entry.annals (id : PaymentId) : Entry ι γ π → List (Nat × Event)
  | .act _ (.save q (.ok version)) =>
    if q.id = id then q.events.map fun event => (version, event) else []
  | _ => []

/-- The events of a payment in the order in which they were recorded, with their versions. -/
def annals (id : PaymentId) (log : List (Entry ι γ π)) : List (Nat × Event) :=
  log.reverse.flatMap (Entry.annals id)

theorem annals_append (id : PaymentId) (later log : List (Entry ι γ π)) :
    annals id (later ++ log) = annals id log ++ annals id later := by
  unfold annals
  rw [List.reverse_append, List.flatMap_append]

theorem annals_cons (id : PaymentId) (e : Entry ι γ π) (log : List (Entry ι γ π)) :
    annals id (e :: log) = annals id log ++ e.annals id := by
  unfold annals
  rw [List.reverse_cons, List.flatMap_append, List.flatMap_singleton]

theorem Entry.annals_of_unwritten {e : Entry ι γ π} (h : e.written = none) (id : PaymentId) :
    e.annals id = [] := by
  unfold Entry.annals
  split
  · cases h
  · rfl

/-! ## Overtaking -/

/-- What was offered of one payment, the oldest first. -/
def offersOf (id : PaymentId) (log : List (Entry ι γ π)) : List (π × Event) :=
  (offers log).filter fun offer => offer.2.payment = id

/-- Nobody was overtaken: every event of the payment was offered by whoever had saved it last. -/
def unovertaken [DecidableEq ι] (id : PaymentId) : List (Entry ι γ π) → Bool
  | [] => true
  | .act i (.offer _ event _) :: log =>
    (event.payment ≠ id || (saversOf id log).head? = some i) && unovertaken id log
  | _ :: log => unovertaken id log

/-- The events that the accepted save of a call has recorded. -/
def recordedBy [DecidableEq ι] (i : ι) (log : List (Entry ι γ π)) : List Event :=
  (storedBy i log).flatMap Payment.events

theorem offersOf_offer (id : PaymentId) (i : ι) (listener : π) (event : Event)
    (delivery : Delivery) (log : List (Entry ι γ π)) :
    offersOf id (.act i (.offer listener event delivery) :: log) =
      if event.payment = id then offersOf id log ++ [(listener, event)] else offersOf id log := by
  unfold offersOf
  rw [← List.singleton_append, offers_append, List.filter_append]
  split
  · rename_i hid
    exact congrArg _ (List.filter_cons_of_pos (decide_eq_true hid))
  · rename_i hid
    have hdrop : (offers [(.act i (.offer listener event delivery) : Entry ι γ π)]).filter
        (fun offer => offer.2.payment = id) = [] := List.filter_cons_of_neg (by simpa using hid)
    rw [hdrop, List.append_nil]

theorem offersOf_of_quiet {e : Entry ι γ π} (h : e.step?.bind Act.offered = none) (id : PaymentId)
    (log : List (Entry ι γ π)) : offersOf id (e :: log) = offersOf id log := by
  have hnothing : offers [e] = [] := by
    cases e with
    | delete other => rfl
    | act i a => exact List.filterMap_cons_none h
  unfold offersOf
  rw [← List.singleton_append, offers_append, hnothing, List.append_nil]

theorem Act.eq_offer {a : Act γ π} {listener : π} {event : Event}
    (h : a.offered = some (listener, event)) : ∃ delivery, a = .offer listener event delivery := by
  cases a with
  | offer _ _ delivery =>
    cases h
    exact ⟨delivery, rfl⟩
  | _ => cases h

section Callers

variable [DecidableEq ι]

theorem recordedBy_save (i k : ι) (q : Payment) (version : Nat) (log : List (Entry ι γ π)) :
    recordedBy k (.act i (.save q (.ok version)) :: log) =
      if i = k then q.events ++ recordedBy k log else recordedBy k log := by
  unfold recordedBy
  split
  · rename_i hik
    rw [hik, storedBy_save]
    rfl
  · rename_i hik
    unfold storedBy
    rw [stepsOf_act_of_ne hik]

theorem recordedBy_of_unwritten {e : Entry ι γ π} (h : e.written = none) (k : ι)
    (log : List (Entry ι γ π)) : recordedBy k (e :: log) = recordedBy k log := by
  unfold recordedBy storedBy
  cases e with
  | delete id => rw [stepsOf_delete]
  | act i a =>
    by_cases hik : i = k
    · have hstored : a.stored = none := by
        unfold Act.stored
        split
        · cases h
        · rfl
      rw [hik, stepsOf_act_self, List.filterMap_cons_none hstored]
    · rw [stepsOf_act_of_ne hik]

theorem offeredBy_offer (i k : ι) (listener : π) (event : Event) (delivery : Delivery)
    (log : List (Entry ι γ π)) :
    offeredBy k (.act i (.offer listener event delivery) :: log) =
      if i = k then offeredBy k log ++ [(listener, event)] else offeredBy k log := by
  unfold offeredBy
  split
  · rename_i hik
    have hoffered : (Act.offer listener event delivery : Act γ π).offered = some (listener, event) :=
      rfl
    rw [hik, stepsOf_act_self, List.filterMap_cons_some hoffered, List.reverse_cons]
  · rename_i hik
    rw [stepsOf_act_of_ne hik]

theorem offeredBy_of_quiet {e : Entry ι γ π} (h : e.step?.bind Act.offered = none) (k : ι)
    (log : List (Entry ι γ π)) : offeredBy k (e :: log) = offeredBy k log := by
  unfold offeredBy
  cases e with
  | delete id => rw [stepsOf_delete]
  | act i a =>
    have hoffered : a.offered = none := h
    by_cases hik : i = k
    · rw [hik, stepsOf_act_self, List.filterMap_cons_none hoffered]
    · rw [stepsOf_act_of_ne hik]

theorem unovertaken_of_cons {id : PaymentId} {e : Entry ι γ π} {log : List (Entry ι γ π)}
    (h : unovertaken id (e :: log) = true) : unovertaken id log = true := by
  unfold unovertaken at h
  split at h
  · cases ‹_ :: _ = []›
  · cases ‹e :: log = _›
    exact (Bool.and_eq_true_iff.1 h).2
  · cases ‹e :: log = _›
    exact h

omit [DecidableEq ι] in
theorem flatMap_reverse_cons {β : Type} {i : ι} {callers : List ι} {f g : ι → List β}
    (hothers : ∀ k ∈ callers, g k = f k) :
    (i :: callers).reverse.flatMap g = callers.reverse.flatMap f ++ g i := by
  rw [List.reverse_cons, List.flatMap_append, List.flatMap_singleton]
  congr 1
  exact List.flatMap_congr fun k hk => hothers k (List.mem_reverse.1 hk)

end Callers

section Runs

variable [DecidableEq ι] {desk : Desk γ π} {useCases : ι → UseCase} {log : List (Entry ι γ π)}
  {stage : ι → Course.Stage π}

/-- The annals tell the story. -/
theorem map_snd_annals (h : Run (Course.Step desk) (fun i => .idle (useCases i)) log stage)
    (id : PaymentId) : (annals id log).map Prod.snd = storyOf id log := by
  induction h with
  | nil => rfl
  | @delete log stage other hrun ih =>
    rw [annals_cons, Entry.annals_of_unwritten rfl, List.append_nil, ih, storyOf, storyOf,
      chronicle_cons_of_none rfl]
  | @act log stage i a t hrun hfits hpermitted ih =>
    rcases (Entry.act i a).written_cases with hwritten | ⟨j, q, version, heq⟩
    · rw [annals_cons, Entry.annals_of_unwritten hwritten, List.append_nil, ih, storyOf, storyOf,
        chronicle_cons_of_none hwritten]
    · cases heq
      have hevents := payment_of_mem_save (.act hrun hfits hpermitted) List.mem_cons_self
      rw [annals_cons, List.map_append, ih, storyOf_save hevents, Entry.annals]
      split
      · simp
      · simp

/-- The versions of the annals are versions of stored states, each of another one. -/
theorem annals_sublist_writes
    (h : Run (Course.Step desk) (fun i => .idle (useCases i)) log stage) (id : PaymentId) :
    ((annals id log).map Prod.fst).Sublist
      ((writesOf id log).reverse.map fun p => p.version) := by
  induction h with
  | nil => exact .slnil
  | @delete log stage other hrun ih =>
    rw [annals_cons, Entry.annals_of_unwritten rfl, List.append_nil, writesOf_cons_of_none rfl]
    exact ih
  | @act log stage i a t hrun hfits hpermitted ih =>
    rcases (Entry.act i a).written_cases with hwritten | ⟨j, q, version, heq⟩
    · rw [annals_cons, Entry.annals_of_unwritten hwritten, List.append_nil,
        writesOf_cons_of_none hwritten]
      exact ih
    · cases heq
      rw [annals_cons, writesOf_save, Entry.annals]
      split
      · rw [List.map_append, List.reverse_cons, List.map_append]
        refine ih.append ?_
        rcases events_of_mem_save (.act hrun hfits hpermitted) List.mem_cons_self with
          hnone | ⟨event, hone, -⟩
        · rw [hnone]
          exact List.nil_sublist _
        · rw [hone]
          exact List.Sublist.refl _
      · rw [List.append_nil]
        exact ih

theorem versions_lt_of_annals
    (h : Run (Course.Step desk) (fun i => .idle (useCases i)) log stage)
    (hkept : ∀ id, Entry.delete id ∉ log) (id : PaymentId) :
    ((annals id log).map Prod.fst).Pairwise (· < ·) := by
  have hnumbered := ((Course.orderly_run h hkept).numbered id).versions
  refine List.Pairwise.sublist (annals_sublist_writes h id) ?_
  rw [hnumbered]
  exact List.pairwise_lt_range'

/-! ### Who is not overtaken -/

theorem nothing_before_save {i : ι} {q : Payment} {version : Nat}
    (h : Run (Course.Step desk) (fun i => .idle (useCases i))
      (.act i (.save q (.ok version)) :: log) stage) :
    storedBy i log = [] ∧ offeredBy i log = [] ∧ ∀ id, i ∉ saversOf id log := by
  have htrail := h.trail i
  rw [stepsOf_act_self] at htrail
  have hunsaved : ∀ q' version', Act.save q' version' ∉ stepsOf i log := by
    intro q' version'
    rw [← List.nil_append (_ :: _)] at htrail
    exact Course.not_mem_save htrail
  refine ⟨?_, ?_, fun id hmem => ?_⟩
  · refine List.filterMap_eq_nil_iff.2 fun a ha => ?_
    unfold Act.stored
    split
    · exact absurd ha (hunsaved _ _)
    · rfl
  · refine List.reverse_eq_nil_iff.2 (List.filterMap_eq_nil_iff.2 fun a ha => ?_)
    unfold Act.offered
    split
    · obtain ⟨newer, older, hsteps⟩ := List.append_of_mem ha
      rw [hsteps, ← List.cons_append] at htrail
      obtain ⟨q', version', hsaved, -⟩ := Course.exists_save_of_offer htrail
      refine absurd ?_ (hunsaved q' (.ok version'))
      rw [hsteps]
      exact List.mem_append_right _ (List.mem_cons_of_mem _ hsaved)
    · rfl
  · obtain ⟨q', version', hsaved, -⟩ := mem_saversOf.1 hmem
    exact hunsaved q' (.ok version') (mem_stepsOf.2 hsaved)

theorem nodup_saversOf (h : Run (Course.Step desk) (fun i => .idle (useCases i)) log stage)
    (id : PaymentId) : (saversOf id log).Nodup := by
  induction h with
  | nil => exact List.nodup_nil
  | @delete log stage other hrun ih =>
    rw [saversOf_cons_of_none rfl]
    exact ih
  | @act log stage i a t hrun hfits hpermitted ih =>
    rcases (Entry.act i a).written_cases with hwritten | ⟨j, q, version, heq⟩
    · rw [saversOf_cons_of_none hwritten]
      exact ih
    · cases heq
      rw [saversOf_save]
      split
      · exact List.nodup_cons.2 ⟨(nothing_before_save (.act hrun hfits hpermitted)).2.2 id, ih⟩
      · exact ih

/-- Who offers an event of a payment has saved that payment and no other. -/
theorem saver_of_offer (h : Run (Course.Step desk) (fun i => .idle (useCases i)) log stage)
    {i : ι} {listener : π} {event : Event} {delivery : Delivery}
    (hmem : Entry.act i (.offer listener event delivery) ∈ log) {id : PaymentId} :
    i ∈ saversOf id log ↔ event.payment = id := by
  obtain ⟨q, version, hsaved, hevent⟩ := mem_recorded.1 (mem_recorded_of_offer h hmem)
  have hpayment := payment_of_mem_save h hsaved event hevent
  constructor
  · intro hsaver
    obtain ⟨q', version', hsaved', hid⟩ := mem_saversOf.1 hsaver
    have hsame := eq_of_length_filterMap_le_one (Course.saves_le_one (h.trail i))
      (mem_stepsOf.2 hsaved) (mem_stepsOf.2 hsaved') rfl rfl
    obtain rfl : q = q' := congrArg Prod.fst hsame
    exact hpayment.trans hid
  · intro hid
    exact mem_saversOf.2 ⟨q, version, hsaved, hpayment.symm.trans hid⟩

/-- The story of a payment is what those have recorded who have saved it, one after the other. -/
theorem storyOf_eq (h : Run (Course.Step desk) (fun i => .idle (useCases i)) log stage)
    (id : PaymentId) :
    storyOf id log = (saversOf id log).reverse.flatMap fun i => recordedBy i log := by
  induction h with
  | nil => rfl
  | @delete log stage other hrun ih =>
    rw [saversOf_cons_of_none rfl, storyOf, chronicle_cons_of_none rfl]
    simp only [recordedBy_of_unwritten (e := .delete other) rfl]
    exact ih
  | @act log stage i a t hrun hfits hpermitted ih =>
    rcases (Entry.act i a).written_cases with hwritten | ⟨j, q, version, heq⟩
    · rw [saversOf_cons_of_none hwritten, storyOf, chronicle_cons_of_none hwritten]
      simp only [recordedBy_of_unwritten hwritten]
      exact ih
    · cases heq
      have hnext := Run.act hrun hfits hpermitted
      obtain ⟨hstored, -, hnew⟩ := nothing_before_save hnext
      have hothers : ∀ k ∈ saversOf id log,
          recordedBy k (.act i (.save q (.ok version)) :: log) = recordedBy k log := by
        intro k hk
        rw [recordedBy_save, if_neg]
        exact fun hik => hnew id (hik ▸ hk)
      rw [storyOf_save (payment_of_mem_save hnext List.mem_cons_self), saversOf_save]
      split
      · rw [flatMap_reverse_cons hothers, ih, recordedBy_save, if_pos rfl]
        unfold recordedBy
        rw [hstored, List.flatMap_nil, List.append_nil]
      · rw [ih]
        exact List.flatMap_congr fun k hk => (hothers k (List.mem_reverse.1 hk)).symm

/-- If nobody was overtaken, the offers of a payment are those of the calls that have saved it, one
call after the other. -/
theorem offersOf_eq (h : Run (Course.Step desk) (fun i => .idle (useCases i)) log stage)
    {id : PaymentId} (hnone : unovertaken id log = true) :
    offersOf id log = (saversOf id log).reverse.flatMap fun i => offeredBy i log := by
  induction h with
  | nil => rfl
  | @delete log stage other hrun ih =>
    rw [saversOf_cons_of_none rfl, offersOf_of_quiet rfl, ih hnone]
    simp only [offeredBy_of_quiet (e := .delete other) rfl]
  | @act log stage i a t hrun hfits hpermitted ih =>
    have hnext := Run.act hrun hfits hpermitted
    have holder := ih (unovertaken_of_cons hnone)
    rcases (Entry.act i a).written_cases with hwritten | ⟨j, q, version, heq⟩
    · rw [saversOf_cons_of_none hwritten]
      cases hoffered : a.offered with
      | none =>
        have hquiet : (Entry.act i a).step?.bind Act.offered = none := hoffered
        rw [offersOf_of_quiet hquiet, holder]
        simp only [offeredBy_of_quiet hquiet]
      | some offer =>
        obtain ⟨listener, event⟩ := offer
        obtain ⟨delivery, rfl⟩ := Act.eq_offer hoffered
        have hsaver : i ∈ saversOf id log ↔ event.payment = id := by
          rw [← saver_of_offer hnext List.mem_cons_self, saversOf_cons_of_none rfl]
        rw [offersOf_offer, holder]
        split
        · rename_i hid
          -- the one who offers has saved last, so what he offers comes last
          have hlast : (saversOf id log).head? = some i := by
            simpa [unovertaken, hid] using (Bool.and_eq_true_iff.1 hnone).1
          obtain ⟨savers, hsavers⟩ := List.head?_eq_some_iff.1 hlast
          have hnodup := nodup_saversOf hrun id
          rw [hsavers] at hnodup ⊢
          rw [flatMap_reverse_cons fun k _ => rfl, flatMap_reverse_cons fun k hk => ?_,
            offeredBy_offer, if_pos rfl, List.append_assoc]
          rw [offeredBy_offer, if_neg]
          rintro rfl
          exact (List.nodup_cons.1 hnodup).1 hk
        · rename_i hid
          refine List.flatMap_congr fun k hk => ?_
          rw [offeredBy_offer, if_neg]
          rintro rfl
          exact hid (hsaver.1 (List.mem_reverse.1 hk))
    · cases heq
      obtain ⟨-, hoffered, -⟩ := nothing_before_save hnext
      have hsame : ∀ k, offeredBy k (.act i (.save q (.ok version)) :: log) = offeredBy k log :=
        fun k => offeredBy_of_quiet rfl k log
      rw [offersOf_of_quiet rfl, holder, saversOf_save]
      split
      · rw [flatMap_reverse_cons fun k _ => hsame k, hsame, hoffered, List.append_nil]
      · simp only [hsame]

/-- What a call offers, to listeners that answer, is the beginning of what it has recorded, and all
of it when the call is done. -/
theorem offeredBy_of_answers (h : Run (Course.Step desk) (fun i => .idle (useCases i)) log stage)
    {i : ι} (hanswered : ∀ listener event, Entry.act i (.offer listener event .pending) ∉ log) :
    offeredBy i log <+: fanOut desk.listeners (recordedBy i log) ∧
      ∀ answer, Course.Ends desk (stage i) answer →
        offeredBy i log = fanOut desk.listeners (recordedBy i log) := by
  have htrail := h.trail i
  have htold : (stage i).Told (fun _ _ => .accepted) desk.listeners _ :=
    Course.told_of_trail htrail fun listener event delivery hmem => by
      refine ⟨fun hpending => ?_, nofun⟩
      subst hpending
      exact absurd (mem_stepsOf.1 hmem) (hanswered listener event)
  have hrecorded : recordedBy i log = (stage i).stored.flatMap Payment.events := by
    rw [← Course.stored_of_trail htrail]
    rfl
  rw [hrecorded, ← rounds_accepted]
  generalize stage i = t at htold
  cases t with
  | telling q receipt agenda =>
    rw [show (Course.Stage.telling q receipt agenda).stored = [q] from rfl, List.flatMap_singleton]
    refine ⟨⟨_, htold⟩, fun answer hend => ?_⟩
    rcases hend.cases with ⟨-, _, _, heq⟩ | ⟨-, hfails⟩
    · cases heq
      exact (List.append_nil _).symm.trans htold
    · cases hfails
  | _ =>
    have hnothing : offeredBy i log = [] := htold
    rw [hnothing]
    exact ⟨List.nil_prefix, fun _ _ => rfl⟩

theorem flatMap_sublist {α β : Type} {f g : α → List β} {items : List α}
    (h : ∀ a ∈ items, (f a).Sublist (g a)) : (items.flatMap f).Sublist (items.flatMap g) := by
  induction items with
  | nil => exact .slnil
  | cons a rest ih =>
    rw [List.flatMap_cons, List.flatMap_cons]
    exact (h a List.mem_cons_self).append (ih fun b hb => h b (List.mem_cons_of_mem a hb))

theorem fanOut_flatMap {α : Type} (listeners : List π) (items : List α) (f : α → List Event) :
    fanOut listeners (items.flatMap f) = items.flatMap fun a => fanOut listeners (f a) :=
  List.flatMap_assoc

/-! ### Who is overtaken -/

omit [DecidableEq ι] in
theorem mem_annals {id : PaymentId} {version : Nat} {event : Event} :
    (version, event) ∈ annals id log ↔
      ∃ i q, Entry.act i (.save q (.ok version)) ∈ log ∧ q.id = id ∧ event ∈ q.events := by
  unfold annals
  rw [List.mem_flatMap]
  constructor
  · rintro ⟨e, he, hmem⟩
    unfold Entry.annals at hmem
    split at hmem
    · rename_i i q stored
      split at hmem
      · rename_i hid
        obtain ⟨event', hevent, heq⟩ := List.mem_map.1 hmem
        cases heq
        exact ⟨i, q, List.mem_reverse.1 he, hid, hevent⟩
      · exact absurd hmem List.not_mem_nil
    · exact absurd hmem List.not_mem_nil
  · rintro ⟨i, q, hsaved, hid, hevent⟩
    refine ⟨_, List.mem_reverse.2 hsaved, ?_⟩
    rw [Entry.annals, if_pos hid]
    exact List.mem_map_of_mem hevent

omit [DecidableEq ι] in
theorem toldOf_subset_append (event : Event) (later earlier : List (Entry ι γ π)) :
    toldOf event earlier ⊆ toldOf event (later ++ earlier) := by
  unfold toldOf
  rw [List.filterMap_append, List.reverse_append]
  exact List.subset_append_left _ _

theorem mem_annals_before_save
    (h : Run (Course.Step desk) (fun i => .idle (useCases i)) log stage)
    (hkept : ∀ id, Entry.delete id ∉ log) {after before : List (Entry ι γ π)} {j : ι} {q : Payment}
    {event event' : Event} {version version' : Nat}
    (hlog : log = after ++ .act j (.save q (.ok version')) :: before) (hevent' : event' ∈ q.events)
    (hold : (version, event) ∈ annals q.id log) (hlt : version < version') :
    (version, event) ∈ annals q.id before := by
  have hgrow := versions_lt_of_annals h hkept q.id
  rw [List.pairwise_map] at hgrow
  rw [hlog, annals_append, annals_cons] at hold hgrow
  have hown : (version', event') ∈
      (Entry.act j (.save q (.ok version')) : Entry ι γ π).annals q.id := by
    rw [Entry.annals, if_pos rfl]
    exact List.mem_map_of_mem hevent'
  rcases List.mem_append.1 hold with hsofar | hafter
  · rcases List.mem_append.1 hsofar with hbefore | hsame
    · exact hbefore
    · rw [Entry.annals, if_pos rfl] at hsame
      obtain ⟨_, -, heq⟩ := List.mem_map.1 hsame
      cases heq
      exact absurd hlt (Nat.lt_irrefl _)
  · have hlater : version' < version := (List.pairwise_append.1 hgrow).2.2 _
      (List.mem_append_right _ hown) _ hafter
    omega

/-- An event is offered before one of an earlier version only if that one was not offered before the
later version was saved. -/
theorem overtaken_of_offer
    (h : Run (Course.Step desk) (fun i => .idle (useCases i)) log stage)
    (hkept : ∀ id, Entry.delete id ∉ log) {id : PaymentId} {later earlier : List (Entry ι γ π)}
    {j : ι} {listener : π} {event event' : Event} {delivery : Delivery} {version version' : Nat}
    (hlog : log = later ++ .act j (.offer listener event' delivery) :: earlier)
    (hold : (version, event) ∈ annals id log) (hnew : (version', event') ∈ annals id log)
    (hlt : version < version') (huntold : listener ∉ toldOf event earlier) :
    ∃ after q before, earlier = after ++ .act j (.save q (.ok version')) :: before ∧
      event' ∈ q.events ∧ (version, event) ∈ annals id before ∧
      listener ∉ toldOf event before := by
  -- the one who offers the event has saved it before
  have htrail := h.trail j
  rw [hlog, stepsOf_append, stepsOf_act_self] at htrail
  obtain ⟨q, saved, hsaved, hevent'⟩ := Course.exists_save_of_offer htrail
  obtain ⟨after, before, rfl⟩ := List.append_of_mem (mem_stepsOf.1 hsaved)
  have hmem : Entry.act j (.save q (.ok saved)) ∈ log := by
    rw [hlog]
    simp
  -- and it was recorded only once
  obtain ⟨i, q', hmem', rfl, hrecorded⟩ := mem_annals.1 hnew
  obtain rfl : i = j := congrArg Prod.fst (List.inj_on_of_nodup_map (nodup_recorded h hkept)
    (mem_recorded.2 ⟨q', version', hmem', hrecorded⟩) (mem_recorded.2 ⟨q, saved, hmem, hevent'⟩)
    rfl)
  have hsame := eq_of_length_filterMap_le_one (Course.saves_le_one (h.trail i))
    (mem_stepsOf.2 hmem) (mem_stepsOf.2 hmem') rfl rfl
  cases hsame
  have hat : log = (later ++ .act i (.offer listener event' delivery) :: after) ++
      .act i (.save q (.ok version')) :: before := by
    rw [hlog]
    simp
  refine ⟨after, q, before, rfl, hevent', mem_annals_before_save h hkept hat hevent' hold hlt,
    fun htold => huntold ?_⟩
  exact toldOf_subset_append event after _ (toldOf_subset_append event [_] before htold)

end Runs

/-- **Events are published in the order in which they were stored, unless a call is overtaken.** Any
calls of the service in any order of their steps. The events that accepted saves have recorded of a
payment have versions that grow. If listeners answer, and every event of the payment was offered by
whoever had saved the payment last, then what was offered of it is its story in this order, each event
to every listener; nothing is missing when all are done who have saved it. In any case, an event is
offered to a listener before one of an earlier version only if that one was recorded, but not yet
offered to the listener, when the later version was saved. -/
theorem delivered_in_order [DecidableEq ι] (desk : Desk γ π) (useCases : ι → UseCase)
    (steps : List (ι × Outside)) :
    let floor := desk.floor useCases steps
    ∀ id,
      ((annals id floor.log).map Prod.snd = storyOf id floor.log ∧
        ((annals id floor.log).map Prod.fst).Pairwise (· < ·)) ∧
      ((∀ i listener event, Entry.act i (.offer listener event .pending) ∉ floor.log) →
        unovertaken id floor.log = true →
        (offersOf id floor.log).Sublist (fanOut desk.listeners (storyOf id floor.log)) ∧
        ((∀ i ∈ saversOf id floor.log, (floor.running i).isDone = true) →
          offersOf id floor.log = fanOut desk.listeners (storyOf id floor.log))) ∧
      ∀ later earlier j listener event event' delivery version version',
        floor.log = later ++ .act j (.offer listener event' delivery) :: earlier →
        (version, event) ∈ annals id floor.log → (version', event') ∈ annals id floor.log →
        version < version' →
        listener ∈ toldOf event earlier ∨
          ∃ after q before, earlier = after ++ .act j (.save q (.ok version')) :: before ∧
            event' ∈ q.events ∧ (version, event) ∈ annals id before ∧
            listener ∉ toldOf event before := by
  intro floor id
  obtain ⟨stage, hrun, hkeeps, hkept⟩ := desk.exists_run_floor useCases steps
  refine ⟨⟨map_snd_annals hrun id, versions_lt_of_annals hrun hkept id⟩, ?_, ?_⟩
  · intro hanswered hnone
    rw [offersOf_eq hrun hnone, storyOf_eq hrun id, fanOut_flatMap]
    have hcalls := fun i => offeredBy_of_answers hrun (i := i) (hanswered i)
    refine ⟨flatMap_sublist fun i _ => (hcalls i).1.sublist, fun hdone => ?_⟩
    refine List.flatMap_congr fun i hi => ?_
    obtain ⟨answer, hanswer⟩ := Workflow.eq_done_of_isDone (hdone i (List.mem_reverse.1 hi))
    exact (hcalls i).2 answer ((hkeeps i).of_done hanswer)
  · intro later earlier j listener event event' delivery version version' hlog hold hnew hlt
    by_cases htold : listener ∈ toldOf event earlier
    · exact .inl htold
    · exact .inr (overtaken_of_offer hrun hkept hlog hold hnew hlt htold)

/-! ### A refund that overtakes -/

def Desk.heardByOne : Desk Unit Unit where
  registry := Registry.empty.register ⟨.paypal, some ()⟩
  listeners := [()]
  publishTimeoutMillis := 5000

open scoped Trial

/-- A payment is made, started, completed by two calls at once, and paid back. -/
def UseCase.hurried : Fin 5 → UseCase
  | 0 => .create "shop" ⟨"paypal", .ofNat 100, "usd", "first", none, none⟩
  | 1 => .startProcessing "shop" .first
  | 2 => .complete "shop" .first ⟨"paid", none⟩
  | 3 => .complete "shop" .first ⟨"paid twice", none⟩
  | 4 => .refund ⟨PaymentId.first.toText, "shop", none, none⟩

/-- Steps of the calls in this order, a second for each. -/
def UseCase.inOrder (callers : List (Fin 5)) : List (Fin 5 × Outside) :=
  callers.mapIdx fun n i => (i, ⟨⟨n, 0⟩, .first, .ok (.approved none), .accepted⟩)

/-- The payment is completed and paid back before the completion is published. -/
def UseCase.overtaking : List (Fin 5 × Outside) :=
  inOrder [0, 0, 0, 0, 1, 1, 1, 2, 2, 2, 4, 4, 4, 4, 4, 2]

/-- The second completion comes too late, and the payment is paid back when the first is published. -/
def UseCase.following : List (Fin 5 × Outside) :=
  inOrder [0, 0, 0, 1, 0, 1, 1, 2, 3, 3, 2, 2, 3, 4, 2, 4, 4, 4, 4]

/-- The refund was stored after the completion, and published before it. -/
theorem refund_overtakes :
    let floor := Desk.heardByOne.floor UseCase.hurried UseCase.overtaking
    (floor.log.all fun
      | .act _ (.offer _ _ delivery) => decide (delivery ≠ .pending)
      | _ => true) = true ∧
    (annals .first floor.log).map (fun entry => (entry.1, entry.2.topic)) =
      [(1, "payment.initiated"), (3, "payment.completed"), (4, "payment.refunded")] ∧
    (offersOf .first floor.log).map (fun offer => offer.2.topic) =
      ["payment.initiated", "payment.refunded", "payment.completed"] := by
  decide +kernel

/-- A refund that waits for the publication of what it pays back is published after it. -/
theorem delivered_in_order_following :
    let floor := Desk.heardByOne.floor UseCase.hurried UseCase.following
    (∀ i listener event, Entry.act i (.offer listener event .pending) ∉ floor.log) ∧
    unovertaken .first floor.log = true ∧
    (∀ i ∈ saversOf .first floor.log, (floor.running i).isDone = true) ∧
    (storyOf .first floor.log).map Event.topic =
      ["payment.initiated", "payment.completed", "payment.refunded"] ∧
    offersOf .first floor.log = fanOut Desk.heardByOne.listeners (storyOf .first floor.log) := by
  have hall : allDeliveries (fun _ _ delivery => decide (delivery ≠ .pending))
      (Desk.heardByOne.floor UseCase.hurried UseCase.following).log = true := by decide +kernel
  have hanswered : ∀ i listener event, Entry.act i (.offer listener event .pending) ∉
      (Desk.heardByOne.floor UseCase.hurried UseCase.following).log := fun i listener event hmem =>
    of_decide_eq_true (allDeliveries_iff.1 hall i listener event _ hmem) rfl
  have hnone : unovertaken .first
      (Desk.heardByOne.floor UseCase.hurried UseCase.following).log = true := by decide +kernel
  have hdone : ∀ i ∈ saversOf .first
      (Desk.heardByOne.floor UseCase.hurried UseCase.following).log,
      ((Desk.heardByOne.floor UseCase.hurried UseCase.following).running i).isDone = true := by
    decide +kernel
  obtain ⟨-, hinorder, -⟩ := delivered_in_order Desk.heardByOne UseCase.hurried UseCase.following
    .first
  exact ⟨hanswered, hnone, hdone, by decide +kernel, (hinorder hanswered hnone).2 hdone⟩

end Paydesk
