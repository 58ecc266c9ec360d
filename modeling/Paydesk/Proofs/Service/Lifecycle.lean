import Paydesk.Proofs.Payment.History
import Paydesk.Proofs.Service.Atomic
import Paydesk.Proofs.Service.Custody
import Mathlib.Data.List.Chain
import Mathlib.Data.List.Perm.Subperm

/-!
# The life of stored payments

The states in which a payment is stored during a run of any calls of the service, in any order of
their steps: `lifecycle`.

1. An accepted save stores a new payment under a name under which nothing was stored, or what a
   command has made of the state that was stored last (`Course.Wrote`, `wrote_of_run`).
2. So the stored states begin with a pending one, and each follows the one before it
   (`IsHistory`, `history_of_run`).
3. A command has its date after it has loaded the payment. If the clock never goes back, that is
   after everything that is dated in the payment (`Course.Dated`, `dated_of_run`).
4. Every call that succeeds has stored one of the states (`mem_saversOf_of_success`), and who has
   stored the first one was about no stored payment (`exists_creator`).
-/

namespace Paydesk

variable {ι γ π : Type}

/-! ## The clock -/

def Entry.reading : Entry ι γ π → Option Instant
  | .act _ (.clock time) => some time
  | _ => none

/-- The times that were read, the last one first. -/
def readings (log : List (Entry ι γ π)) : List Instant :=
  log.filterMap Entry.reading

/-- The clock never went back. -/
def Forward (log : List (Entry ι γ π)) : Prop :=
  (readings log).Pairwise fun later earlier => earlier ≤ later

theorem readings_subset_cons (e : Entry ι γ π) (log : List (Entry ι γ π)) :
    readings log ⊆ readings (e :: log) :=
  List.filterMap_subset _ (List.subset_cons_self e log)

theorem mem_readings {i : ι} {now : Instant} {log : List (Entry ι γ π)}
    (h : Entry.act i (.clock now) ∈ log) : now ∈ readings log :=
  List.mem_filterMap.2 ⟨_, h, rfl⟩

theorem Forward.of_cons {e : Entry ι γ π} {log : List (Entry ι γ π)} (h : Forward (e :: log)) :
    Forward log :=
  List.Pairwise.sublist ((List.sublist_cons_self e log).filterMap _) h

/-- What was read before is not later than what is read now. -/
theorem Forward.le {i : ι} {now time : Instant} {log : List (Entry ι γ π)}
    (h : Forward (.act i (.clock now) :: log)) (htime : time ∈ readings log) : time ≤ now :=
  (List.pairwise_cons.1 h).1 time htime

/-! ## Histories -/

/-- The states of a payment, the newest first: it began as a pending one under the first version,
and each state follows the one before it. -/
structure IsHistory (states : List Payment) : Prop where
  first : ∀ p ∈ states.getLast?, p.status = .pending ∧ p.version = 1
  follows : states.IsChain fun newer older => Payment.Follows older newer

theorem IsHistory.nil : IsHistory [] :=
  ⟨by simp, .nil⟩

theorem IsHistory.created (id : PaymentId) (now : Instant) (draft : Payment.Draft) :
    IsHistory [((Payment.create id now draft).withVersion 1).commitEvents] :=
  ⟨fun p hp => by obtain rfl := Option.some.inj hp; exact ⟨rfl, rfl⟩, .singleton _⟩

theorem IsHistory.cons {p q : Payment} {older : List Payment} (h : IsHistory (p :: older))
    (hq : Payment.Follows p q) : IsHistory (q :: p :: older) :=
  ⟨h.first, .cons_cons hq h.follows⟩

/-! ## Who has stored -/

/-- Who has stored a state of the payment, if the entry tells of that. -/
def Entry.saver (id : PaymentId) : Entry ι γ π → Option ι
  | .act i (.save q (.ok _)) => if q.id = id then some i else none
  | _ => none

/-- Those who have stored the states of a payment, the last one first. -/
def saversOf (id : PaymentId) (log : List (Entry ι γ π)) : List ι :=
  log.filterMap (Entry.saver id)

theorem mem_saversOf {id : PaymentId} {i : ι} {log : List (Entry ι γ π)} :
    i ∈ saversOf id log ↔ ∃ q version, Entry.act i (.save q (.ok version)) ∈ log ∧ q.id = id := by
  unfold saversOf
  rw [List.mem_filterMap]
  constructor
  · rintro ⟨e, he, hsaver⟩
    unfold Entry.saver at hsaver
    split at hsaver
    · rename_i j q version
      split at hsaver
      · rename_i hid
        obtain rfl := Option.some.inj hsaver
        exact ⟨q, version, he, hid⟩
      · cases hsaver
    · cases hsaver
  · rintro ⟨q, version, hmem, hid⟩
    exact ⟨_, hmem, if_pos hid⟩

theorem Entry.saver_of_unwritten {e : Entry ι γ π} (h : e.written = none) (id : PaymentId) :
    e.saver id = none := by
  unfold Entry.saver
  split
  · cases h
  · rfl

theorem saversOf_cons_of_none {e : Entry ι γ π} (h : e.written = none) (id : PaymentId)
    (log : List (Entry ι γ π)) : saversOf id (e :: log) = saversOf id log :=
  List.filterMap_cons_none (Entry.saver_of_unwritten h id)

theorem saversOf_save (id : PaymentId) (i : ι) (q : Payment) (version : Nat)
    (log : List (Entry ι γ π)) :
    saversOf id (.act i (.save q (.ok version)) :: log) =
      if q.id = id then i :: saversOf id log else saversOf id log := by
  have hsaver : (Entry.act i (.save q (.ok version)) : Entry ι γ π).saver id =
      if q.id = id then some i else none := rfl
  unfold saversOf
  split at hsaver
  · rename_i hid
    rw [List.filterMap_cons_some hsaver, if_pos hid]
  · rename_i hid
    rw [List.filterMap_cons_none hsaver, if_neg hid]

theorem length_saversOf (id : PaymentId) (log : List (Entry ι γ π)) :
    (saversOf id log).length = (writesOf id log).length := by
  induction log with
  | nil => rfl
  | cons e log ih =>
    rcases e.written_cases with hwritten | ⟨i, q, version, rfl⟩
    · rw [saversOf_cons_of_none hwritten, writesOf_cons_of_none hwritten]
      exact ih
    · rw [saversOf_save, writesOf_save]
      by_cases hid : q.id = id
      · rw [if_pos hid, if_pos hid, List.length_cons, List.length_cons, ih]
      · rw [if_neg hid, if_neg hid, ih]

namespace Course

/-! ## What a save stores -/

/-- The payment that a command is about to be done to, and its date. -/
def Stage.dated : Stage π → Option (Payment × Instant)
  | .timed _ p now => some (p, now)
  | .granted _ p _ now => some (p, now)
  | _ => none

/-- What an accepted save stores under a version, from the stage of the call and what was stored
before: a new payment, or what a command gives for the payment that was stored last. -/
inductive Wrote (log : List (Entry ι γ π)) : Stage π → Payment → Nat → Prop
  | create {draft : Payment.Draft} {now : Instant} {id : PaymentId}
      (unwritten : writesOf id log = []) :
      Wrote log (.named draft now id) (Payment.create id now draft) 1
  | change {s : Stage π} {p q : Payment} {c : Payment.Call} {plan : Option Payment.RefundPlan}
      {now : Instant} {older : List Payment} (dated : s.dated = some (p, now))
      (command : c.IsCommand) (time : c.time = some now) (gives : c.Gives p q plan)
      (newest : writesOf p.id log = p :: older) : Wrote log s q (p.version + 1)

theorem command_spec {u : UseCase} {now : Instant} {c : Payment.Call}
    (h : u.command now = some c) : c.IsCommand ∧ c.time = some now := by
  cases u <;> cases h <;> exact ⟨trivial, rfl⟩

theorem Wrote.history {log : List (Entry ι γ π)} {s : Stage π} {q : Payment} {version : Nat}
    (h : Wrote log s q version) (i : ι) {id : PaymentId} (hold : IsHistory (writesOf id log)) :
    IsHistory (writesOf id (.act i (.save q (.ok version)) :: log)) := by
  rw [writesOf_save]
  split
  · rename_i hid
    subst hid
    cases h with
    | @create draft now id hnil =>
      show IsHistory (_ :: writesOf id log)
      rw [hnil]
      exact .created id now draft
    | change _ hcommand _ hgives hnewest =>
      rw [hgives.sameIdentity.id, hnewest] at hold ⊢
      exact hold.cons (hgives.follows hcommand)
  · exact hold

section Runs

variable [DecidableEq ι] {desk : Desk γ π} {useCases : ι → UseCase} {log : List (Entry ι γ π)}
  {stage : ι → Stage π}

/-- The calls of a run as use cases that hold one payment each. -/
theorem holds_run (h : Run (Step desk) (fun i => .idle (useCases i)) log stage) :
    Run Hold.Step (fun _ => .nothing) log fun i => (stage i).view.hold :=
  h.map fun _ _ _ hstep => hstep.view.hold

theorem orderly_run (h : Run (Step desk) (fun i => .idle (useCases i)) log stage)
    (hkept : ∀ id, Entry.delete id ∉ log) : Orderly log fun i => (stage i).view.hold :=
  orderly_of_run (holds_run h) (.inr hkept)

theorem wrote_of_run (h : Run (Step desk) (fun i => .idle (useCases i)) log stage)
    (hkept : ∀ id, Entry.delete id ∉ log) {i : ι} {q : Payment} {version : Nat} {t : Stage π}
    (hnext : (replay log).nextVersion q = .ok version)
    (hpermitted : Step desk (stage i) (.save q (.ok version)) t) :
    Wrote log (stage i) q version := by
  have horderly := orderly_run h hkept
  -- what is saved over the copy that is held is saved over the state that was stored last
  have hcopy : ∀ {p : Payment} {c : Payment.Call} {plan : Option Payment.RefundPlan}
      {now : Instant}, (stage i).view.hold = .copy p → (stage i).dated = some (p, now) → c.IsCommand →
      c.time = some now → c.Gives p q plan → Wrote log (stage i) q version := by
    intro p c plan now hhold hdated hcommand htime hgives
    obtain ⟨hfind, rfl⟩ := horderly.version_of_copy hhold hgives.sameIdentity.id
      hgives.sameIdentity.version hnext
    obtain ⟨older, hnewest⟩ := List.head?_eq_some_iff.1 (horderly.current p.id p hfind)
    exact .change hdated hcommand htime hgives hnewest
  generalize hstage : stage i = s at hpermitted hcopy ⊢
  cases hpermitted with
  | @create draft now id _ =>
    have hhold : (stage i).view.hold = .named id := by rw [hstage]; rfl
    obtain ⟨hnil, rfl⟩ := horderly.version_of_named (.inr hkept) hhold rfl hnext
    exact .create hnil
  | change hcommand hgives =>
    obtain ⟨hcall, htime⟩ := command_spec hcommand
    exact hcopy rfl rfl hcall htime hgives
  | @refund r _ _ receipt now _ hgives =>
    have hcommand : (Payment.Call.refund now (some receipt.plan.amount) r.reason).IsCommand :=
      trivial
    exact hcopy rfl rfl hcommand rfl hgives

/-- The stored states of every payment are a history. -/
theorem history_of_run (h : Run (Step desk) (fun i => .idle (useCases i)) log stage)
    (hkept : ∀ id, Entry.delete id ∉ log) (id : PaymentId) : IsHistory (writesOf id log) := by
  induction h with
  | nil => exact .nil
  | delete _ _ => exact absurd List.mem_cons_self (hkept _)
  | @act log stage i a t hrun hfits hpermitted ih =>
    have hbefore : ∀ id, Entry.delete id ∉ log := fun id hmem =>
      hkept id (List.mem_cons_of_mem _ hmem)
    rcases (Entry.act i a).written_cases with hwritten | ⟨j, q, version, heq⟩
    · rw [writesOf_cons_of_none hwritten]
      exact ih hbefore
    · cases heq
      exact (wrote_of_run hrun hbefore hfits.symm hpermitted).history i (ih hbefore)

/-! ## Dates -/

/-- The stored states have their dates in order, the last one read from the clock, and a command is
dated after the state that it is about to be done to. -/
structure Dated (log : List (Entry ι γ π)) (stage : ι → Stage π) : Prop where
  written : ∀ p ∈ writes log, p.IsChronological ∧ p.updatedAt ∈ readings log
  later : ∀ i p now, (stage i).dated = some (p, now) → p.updatedAt ≤ now

/-- A command gets its date when its payment is held already. -/
theorem Step.dated {s t : Stage π} {a : Act γ π} (h : Step desk s a t) {p : Payment} {now : Instant}
    (ht : t.dated = some (p, now)) :
    s.dated = some (p, now) ∨ a = .clock now ∧ s.view.hold = .copy p := by
  cases h with
  | warn => exact .inl ht
  | time _ _ =>
    cases ht
    exact .inr ⟨rfl, rfl⟩
  | grant hgiven =>
    cases ht
    refine .inr ⟨rfl, ?_⟩
    simp only [Stage.view, hgiven, if_true]
    rfl
  | @create draft now id version => cases version <;> cases ht
  | @change _ _ _ _ _ version _ _ => cases version <;> cases ht
  | @refund _ _ _ _ _ version _ => cases version <;> cases ht
  | _ => cases ht

theorem mem_readings_of_dated (h : Run (Step desk) (fun i => .idle (useCases i)) log stage) {i : ι}
    {p : Payment} {now : Instant} (hi : (stage i).dated = some (p, now)) : now ∈ readings log := by
  have hbacked := backed_of_trail (h.trail i)
  generalize stage i = s at hi hbacked
  cases s with
  | timed u p now =>
    cases hi
    exact mem_readings (mem_stepsOf.1 hbacked.2.2.2)
  | granted r p receipt now =>
    cases hi
    exact mem_readings (mem_stepsOf.1 hbacked.2.2)
  | _ => cases hi

/-- What is stored by a command that is dated after its payment has its dates in order. -/
theorem Dated.wrote (h : Dated log stage)
    (hrun : Run (Step desk) (fun i => .idle (useCases i)) log stage)
    (hconsistent : ∀ p ∈ writes log, p.IsConsistent) {i : ι} {q : Payment} {version : Nat}
    (hwrote : Wrote log (stage i) q version) : q.IsChronological ∧ q.updatedAt ∈ readings log := by
  have hbacked := backed_of_trail (hrun.trail i)
  have hlater := h.later i
  have hread : ∀ p now, (stage i).dated = some (p, now) → now ∈ readings log :=
    fun p now hi => mem_readings_of_dated hrun hi
  generalize stage i = s at hwrote hbacked hlater hread
  cases hwrote with
  | create _ =>
    exact ⟨Payment.chronological_create _ _ _, mem_readings (mem_stepsOf.1 hbacked.2.1)⟩
  | @change _ p _ c _ now older hdated _ htime hgives hnewest =>
    have hp : p ∈ writes log := by
      have hmem : p ∈ writesOf p.id log := by rw [hnewest]; exact List.mem_cons_self
      exact (List.mem_filter.1 hmem).1
    constructor
    · refine hgives.chronological (hconsistent p hp) (h.written p hp).1 fun time heq => ?_
      obtain rfl := Option.some.inj (htime.symm.trans heq)
      exact hlater p now hdated
    · rw [hgives.updatedAt, htime]
      exact hread p now hdated

/-- If the clock never goes back, the dates of all stored states are in order. -/
theorem dated_of_run (h : Run (Step desk) (fun i => .idle (useCases i)) log stage)
    (hkept : ∀ id, Entry.delete id ∉ log) (hconsistent : ∀ p ∈ writes log, p.IsConsistent)
    (hforward : Forward log) : Dated log stage := by
  induction h with
  | nil =>
    refine ⟨fun p hp => absurd hp List.not_mem_nil, fun i p now hi => ?_⟩
    simp [Stage.dated] at hi
  | delete _ _ => exact absurd List.mem_cons_self (hkept _)
  | @act log stage i a t hrun hfits hpermitted ih =>
    have hbefore : ∀ id, Entry.delete id ∉ log := fun id hmem =>
      hkept id (List.mem_cons_of_mem _ hmem)
    have hwere : ∀ p ∈ writes log, p.IsConsistent := fun p hp =>
      hconsistent p (List.filterMap_subset _ (List.subset_cons_self _ _) hp)
    have hdated := ih hbefore hwere hforward.of_cons
    have hread := readings_subset_cons (.act i a) log
    constructor
    · rcases (Entry.act i a).written_cases with hwritten | ⟨j, q, version, heq⟩
      · rw [writes_cons_of_none hwritten]
        exact fun p hp => ⟨(hdated.written p hp).1, hread (hdated.written p hp).2⟩
      · cases heq
        have hwrote := wrote_of_run hrun hbefore hfits.symm hpermitted
        obtain ⟨hq, hmem⟩ := hdated.wrote hrun hwere hwrote
        rw [writes_save]
        refine List.forall_mem_cons.2 ⟨⟨hq.saved version, hread hmem⟩, fun p hp => ?_⟩
        exact ⟨(hdated.written p hp).1, hread (hdated.written p hp).2⟩
    · intro j p now hj
      by_cases hij : j = i
      · subst hij
        rw [Function.update_self] at hj
        rcases hpermitted.dated hj with hbefore' | ⟨rfl, hheld⟩
        · exact hdated.later j p now hbefore'
        · have hcopy := (orderly_run hrun hbefore).copies j p hheld
          exact hforward.le (hdated.written p (List.mem_filter.1 hcopy).1).2
      · rw [Function.update_of_ne hij] at hj
        exact hdated.later j p now hj

/-! ## Who has stored the states -/

theorem exists_creator (h : Run (Step desk) (fun i => .idle (useCases i)) log stage)
    (hkept : ∀ id, Entry.delete id ∉ log) {id : PaymentId} (hstored : writesOf id log ≠ []) :
    ∃ i ∈ saversOf id log, (useCases i).target = none := by
  induction h with
  | nil => exact absurd rfl hstored
  | delete _ _ => exact absurd List.mem_cons_self (hkept _)
  | @act log stage i a t hrun hfits hpermitted ih =>
    have hbefore : ∀ id, Entry.delete id ∉ log := fun id hmem =>
      hkept id (List.mem_cons_of_mem _ hmem)
    have holder : writesOf id log ≠ [] → ∃ j ∈ saversOf id (.act i a :: log),
        (useCases j).target = none := by
      intro hwritten
      obtain ⟨j, hj, htarget⟩ := ih hbefore hwritten
      exact ⟨j, List.filterMap_subset _ (List.subset_cons_self _ _) hj, htarget⟩
    rcases (Entry.act i a).written_cases with hwritten | ⟨j, q, version, heq⟩
    · rw [writesOf_cons_of_none hwritten] at hstored
      exact holder hstored
    · cases heq
      rw [writesOf_save] at hstored
      split at hstored
      · rename_i hid
        subst hid
        have hwrote := wrote_of_run hrun hbefore hfits.symm hpermitted
        have hbacked := backed_of_trail (hrun.trail i)
        generalize stage i = s at hwrote hbacked
        cases hwrote with
        | create _ =>
          obtain ⟨⟨tenant, r, hcall, -⟩, -⟩ := hbacked
          exact ⟨i, mem_saversOf.2 ⟨_, _, List.mem_cons_self, rfl⟩, by rw [hcall]; rfl⟩
        | change _ _ _ hgives hnewest =>
          refine holder ?_
          rw [hgives.sameIdentity.id, hnewest]
          exact List.cons_ne_nil _ _
      · exact holder hstored

/-- Those who have stored a state of a payment that was there already are fewer than its states. -/
theorem length_callers_le (h : Run (Step desk) (fun i => .idle (useCases i)) log stage)
    (hkept : ∀ id, Entry.delete id ∉ log) {id : PaymentId} {callers : List ι}
    (hnodup : callers.Nodup)
    (hsavers : ∀ i ∈ callers, i ∈ saversOf id log ∧ (useCases i).target = some id) :
    callers.length ≤ (writesOf id log).length - 1 := by
  rw [← length_saversOf]
  cases callers with
  | nil => exact Nat.zero_le _
  | cons first rest =>
    have hstored : writesOf id log ≠ [] := by
      have hpos := List.length_pos_of_mem (hsavers first List.mem_cons_self).1
      rw [length_saversOf] at hpos
      exact List.length_pos_iff.1 hpos
    obtain ⟨creator, hcreator, hnew⟩ := exists_creator h hkept hstored
    -- whoever has stored the first state is none of them
    have hother : creator ∉ first :: rest := fun hmem => by
      have htarget := (hsavers creator hmem).2
      rw [hnew] at htarget
      cases htarget
    have hall := ((List.nodup_cons.2 ⟨hother, hnodup⟩).subperm
      (List.cons_subset.2 ⟨hcreator, fun i hi => (hsavers i hi).1⟩)).length_le
    rw [List.length_cons] at hall
    omega

theorem mem_saversOf_of_success {i : ι} {u : UseCase} {t : Stage π} {answer : Answer}
    {id : PaymentId}
    (htrail : Trail (Step desk) (.idle u) (stepsOf i log) t) (hend : Ends desk t answer)
    (hsuccess : answer.isSuccess = true) (htarget : u.target = some id) : i ∈ saversOf id log := by
  rcases hend.cases with ⟨-, q, receipt, rfl⟩ | ⟨hfailure, -⟩
  · obtain ⟨p, version, -, hmem⟩ := backed_of_trail htrail
    obtain ⟨_, _, hsaves⟩ := exists_saves htrail hmem
    exact mem_saversOf.2 ⟨p, version, mem_stepsOf.1 hmem, hsaves.id_eq htarget⟩
  · rw [hsuccess] at hfailure
    cases hfailure

end Runs

end Course

/-- Calls of the service store payments only whose fields fit their states. -/
theorem UseCase.consistent_of_mem_writes [DecidableEq ι] (desk : Desk γ π) (useCases : ι → UseCase)
    (moves : List (Move ι)) :
    ∀ p ∈ writes (Floor.play (fun i => (useCases i).workflow desk) moves).log, p.IsConsistent :=
  ((UseCase.custody desk useCases moves).always (P := Payment.IsConsistent)
    Payment.consistent_create (fun _ c hp => hp.after c) fun _ version hp => hp.saved version).1

/-- **The life of stored payments.** Any calls of the service in any order of their steps, with any
answers of the world outside. The states in which a payment was stored, the oldest first, begin with
a pending one under version 1; each of the others follows the one before it along an edge of the graph
of states, under the next version, with everything that no command may change; and the last one is
what is stored. So at most four commands on the payment succeed, a state that no edge leads out of
is the last one, and what a state says of dates, transaction and reason is so in every state that was
ever stored. If the clock never goes back, the dates are in order. -/
theorem lifecycle [DecidableEq ι] (desk : Desk γ π) (useCases : ι → UseCase)
    (steps : List (ι × Outside)) :
    let floor := Floor.play (fun i => (useCases i).workflow desk)
      (steps.map fun step => .step step.1 step.2)
    ∀ id,
      let states := (writesOf id floor.log).reverse
      (∀ p ∈ states.head?, p.status = .pending ∧ p.version = 1) ∧
      states.IsChain Payment.Follows ∧
      floor.store.find? id = states.getLast? ∧
      states.length ≤ 5 ∧
      (∀ callers : List ι, callers.Nodup →
        (∀ i ∈ callers, (useCases i).target = some id ∧
          ∃ answer, floor.running i = .done answer ∧ answer.isSuccess = true) →
        callers.length ≤ 4) ∧
      (∀ p ∈ states, p.status = .failed ∨ p.status = .cancelled ∨ p.status = .refunded →
        floor.store.find? id = some p) ∧
      (∀ p ∈ states, ∀ q ∈ states, Payment.Akin p q) ∧
      (∀ p ∈ states, p.IsConsistent) ∧
      (Forward floor.log → ∀ p ∈ states, p.IsChronological) := by
  intro floor id states
  obtain ⟨stage, hrun, hkeeps⟩ := exists_run_play (fun i => Course.keeps desk (useCases i))
    (steps.map fun step => .step step.1 step.2)
  change Run _ _ floor.log stage at hrun
  change ∀ i, (floor.running i).Keeps _ _ (stage i) at hkeeps
  have hkept : ∀ id, Entry.delete id ∉ floor.log := delete_not_mem_play _ steps
  have horderly := Course.orderly_run hrun hkept
  obtain ⟨hfirst, hfollows⟩ := Course.history_of_run hrun hkept id
  have hchain : states.IsChain Payment.Follows := List.isChain_reverse.2 hfollows
  have hpending : ∀ p ∈ states.head?, p.status = .pending ∧ p.version = 1 := by
    rwa [List.head?_reverse]
  have hlast : floor.store.find? id = states.getLast? := by
    rw [List.getLast?_reverse, store_play]
    exact horderly.find?_eq_head? hkept id
  have hstates : ∀ p ∈ states, p ∈ writes floor.log := fun p hp =>
    (List.mem_filter.1 (List.mem_reverse.1 hp)).1
  have hconsistent : ∀ p ∈ writes floor.log, p.IsConsistent :=
    UseCase.consistent_of_mem_writes desk useCases _
  have hlength : states.length ≤ 5 := Payment.length_le_of_follows hchain
  refine ⟨hpending, hchain, hlast, hlength, ?_, ?_,
    fun p hp q hq => Payment.akin_of_mem hchain hp hq,
    fun p hp => hconsistent p (hstates p hp), ?_⟩
  · intro callers hnodup hsucceed
    have hsavers : ∀ i ∈ callers, i ∈ saversOf id floor.log ∧ (useCases i).target = some id := by
      intro i hi
      obtain ⟨htarget, answer, hdone, hsuccess⟩ := hsucceed i hi
      have hend := (hkeeps i).of_done hdone
      exact ⟨Course.mem_saversOf_of_success (hrun.trail i) hend hsuccess htarget, htarget⟩
    have hfewer := Course.length_callers_le hrun hkept hnodup hsavers
    have hsame : states.length = (writesOf id floor.log).length := List.length_reverse
    omega
  · intro p hp hfinal
    rw [hlast]
    exact Payment.getLast?_of_follows hchain hp (Status.not_allows_of_final hfinal)
  · intro hforward p hp
    exact ((Course.dated_of_run hrun hkept hconsistent hforward).written p (hstates p hp)).1

open scoped Trial

/-- A payment of one hundred dollars is made, started and completed, and paid back in two parts. -/
def UseCase.lifelong : Fin 5 → UseCase
  | 0 => .create "shop" ⟨"paypal", .ofNat 100, "usd", "first", none, none⟩
  | 1 => .startProcessing "shop" .first
  | 2 => .complete "shop" .first ⟨"paid", none⟩
  | 3 => .refund ⟨PaymentId.first.toText, "shop", some (.ofNat 40), none⟩
  | 4 => .refund ⟨PaymentId.first.toText, "shop", none, none⟩

/-- One call after the other, a second for each step. -/
def UseCase.lifetime : List (Fin 5 × Outside) :=
  [0, 0, 0, 1, 1, 1, 2, 2, 2, 3, 3, 3, 3, 4, 4, 4, 4].mapIdx fun n i =>
    (i, ⟨⟨n, 0⟩, .first, .ok (.approved none), .accepted⟩)

/-- The longest life of a payment has five states. -/
theorem lifecycle_longest :
    let floor := Floor.play (fun i => (UseCase.lifelong i).workflow Desk.plain)
      (UseCase.lifetime.map fun step => .step step.1 step.2)
    let states := (writesOf .first floor.log).reverse
    Forward floor.log ∧
    states.map (fun p => p.status) =
      [.pending, .processing, .completed, .partiallyRefunded, .refunded] ∧
    ∀ p ∈ states, p.IsConsistent ∧ p.IsChronological := by
  intro floor states
  have hforward : Forward floor.log := by
    unfold Forward
    decide +kernel
  obtain ⟨-, -, -, -, -, -, -, hconsistent, hchronological⟩ :=
    lifecycle Desk.plain UseCase.lifelong UseCase.lifetime .first
  refine ⟨hforward, by decide +kernel, fun p hp => ?_⟩
  exact ⟨hconsistent p hp, hchronological hforward p hp⟩

end Paydesk
