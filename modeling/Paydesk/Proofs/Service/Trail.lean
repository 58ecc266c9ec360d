import Paydesk.Proofs.Service.Interleaving
import Mathlib.Data.List.Infix

/-!
# The trail of one use case

What one use case does in a run in which the others may be any use cases at all.

1. Its steps, taken out of the log, follow the protocol that it keeps to, whoever else is at work
   (`exists_trail_play`).
2. A step in a log stems from a move, and was answered from what was stored at that moment
   (`exists_move_of_log`, `fits_of_log`).
3. Who stores nothing can be left out: the run without its moves ends with the same store
   (`AgreeBut.foldl`); who stores once makes a difference by that move only (`exists_lone_save`).
4. Whoever is given enough steps comes to its end (`Floor.finishes`).
-/

namespace Paydesk

variable {ι γ π α σ : Type} [DecidableEq ι]

/-! ## The steps of one use case -/

/-- The step that an entry tells of, if it is one of this use case. -/
def Entry.stepOf (i : ι) : Entry ι γ π → Option (Act γ π)
  | .act j a => if j = i then some a else none
  | .delete _ => none

/-- The steps of a use case, the newest first. -/
def stepsOf (i : ι) (log : List (Entry ι γ π)) : List (Act γ π) :=
  log.filterMap (Entry.stepOf i)

@[simp] theorem Entry.stepOf_act_self (i : ι) (a : Act γ π) :
    (Entry.act i a).stepOf i = some a :=
  if_pos rfl

theorem Entry.stepOf_act_of_ne {i j : ι} (h : j ≠ i) (a : Act γ π) :
    (Entry.act j a).stepOf i = none :=
  if_neg h

theorem Entry.stepOf_eq_some {i : ι} {e : Entry ι γ π} {a : Act γ π} :
    e.stepOf i = some a ↔ e = .act i a := by
  cases e with
  | delete id => simp [Entry.stepOf]
  | act j b =>
    by_cases h : j = i
    · subst h
      simp
    · simp [Entry.stepOf_act_of_ne h, h]

theorem stepsOf_act_self (i : ι) (a : Act γ π) (log : List (Entry ι γ π)) :
    stepsOf i (.act i a :: log) = a :: stepsOf i log :=
  List.filterMap_cons_some (Entry.stepOf_act_self i a)

theorem stepsOf_act_of_ne {i j : ι} (h : j ≠ i) (a : Act γ π) (log : List (Entry ι γ π)) :
    stepsOf i (.act j a :: log) = stepsOf i log :=
  List.filterMap_cons_none (Entry.stepOf_act_of_ne h a)

theorem stepsOf_delete (i : ι) (id : PaymentId) (log : List (Entry ι γ π)) :
    stepsOf i (.delete id :: log) = stepsOf i log :=
  List.filterMap_cons_none rfl

theorem stepsOf_append (i : ι) (later log : List (Entry ι γ π)) :
    stepsOf i (later ++ log) = stepsOf i later ++ stepsOf i log :=
  List.filterMap_append

theorem mem_stepsOf {i : ι} {a : Act γ π} {log : List (Entry ι γ π)} :
    a ∈ stepsOf i log ↔ Entry.act i a ∈ log := by
  unfold stepsOf
  rw [List.mem_filterMap]
  constructor
  · rintro ⟨e, he, hstep⟩
    exact Entry.stepOf_eq_some.1 hstep ▸ he
  · exact fun h => ⟨_, h, Entry.stepOf_act_self i a⟩

/-- The steps of a use case before and after one of them stand before and after it in the log. -/
theorem exists_log_of_stepsOf {i : ι} {a : Act γ π} {log : List (Entry ι γ π)}
    {newer older : List (Act γ π)} (h : stepsOf i log = newer ++ a :: older) :
    ∃ later earlier, log = later ++ .act i a :: earlier ∧ stepsOf i later = newer ∧
      stepsOf i earlier = older := by
  obtain ⟨later, rest, rfl, hlater, hrest⟩ := List.filterMap_eq_append_iff.1 h
  obtain ⟨others, e, earlier, rfl, hothers, he, hearlier⟩ := List.filterMap_eq_cons_iff.1 hrest
  obtain rfl := Entry.stepOf_eq_some.1 he
  refine ⟨later ++ others, earlier, by simp, ?_, hearlier⟩
  unfold stepsOf
  rw [List.filterMap_append, hlater, List.filterMap_eq_nil_iff.2 hothers, List.append_nil]

/-! ## Trails of a protocol -/

/-- Steps that a protocol permits one after the other, the newest first, from one stage to another. -/
inductive Trail (δ : Protocol γ π σ) (s : σ) : List (Act γ π) → σ → Prop
  | nil : Trail δ s [] s
  | step {acts : List (Act γ π)} {t u : σ} {a : Act γ π} (trail : Trail δ s acts t)
      (permitted : δ t a u) : Trail δ s (a :: acts) u

namespace Trail

variable {δ : Protocol γ π σ} {s t : σ} {acts : List (Act γ π)}

/-- What holds at first and is kept by every step holds at last. -/
theorem always {P : σ → Prop} (h : Trail δ s acts t) (hinit : P s)
    (hstep : ∀ s a t, P s → δ s a t → P t) : P t := by
  induction h with
  | nil => exact hinit
  | step _ hpermitted ih => exact hstep _ _ _ ih hpermitted

/-- What a step brings about and no step undoes holds after that step. -/
theorem of_mem {P : σ → Prop} {a : Act γ π} (h : Trail δ s acts t) (hmem : a ∈ acts)
    (hbegin : ∀ s t, δ s a t → P t) (hstay : ∀ s b t, P s → δ s b t → P t) : P t := by
  induction h with
  | nil => simp at hmem
  | step _ hpermitted ih =>
    rcases List.mem_cons.1 hmem with rfl | hold
    · exact hbegin _ _ hpermitted
    · exact hstay _ _ _ (ih hold) hpermitted

/-- Who is in a stage that only certain steps lead to has taken such a step. -/
theorem exists_mem {P : σ → Prop} {Q : Act γ π → Prop} (h : Trail δ s acts t) (hinit : ¬ P s)
    (hstep : ∀ s a t, δ s a t → P t → P s ∨ Q a) (ht : P t) : ∃ a ∈ acts, Q a := by
  induction h with
  | nil => exact absurd ht hinit
  | @step acts t u a _ hpermitted ih =>
    rcases hstep _ _ _ hpermitted ht with hbefore | hnow
    · obtain ⟨b, hmem, hb⟩ := ih hbefore
      exact ⟨b, List.mem_cons_of_mem a hmem, hb⟩
    · exact ⟨a, List.mem_cons_self, hnow⟩

theorem of_append {newer older : List (Act γ π)} (h : Trail δ s (newer ++ older) t) :
    ∃ m, Trail δ s older m ∧ Trail δ m newer t := by
  induction newer generalizing t with
  | nil => exact ⟨t, h, .nil⟩
  | cons a newer ih =>
    cases h with
    | step htrail hpermitted =>
      obtain ⟨m, holder, hnewer⟩ := ih htrail
      exact ⟨m, holder, .step hnewer hpermitted⟩

/-- A step of a trail was permitted in the stage that the older steps have led to. -/
theorem of_append_cons {newer older : List (Act γ π)} {a : Act γ π}
    (h : Trail δ s (newer ++ a :: older) t) :
    ∃ m m', Trail δ s older m ∧ δ m a m' ∧ Trail δ m' newer t := by
  obtain ⟨m', hstep, hnewer⟩ := h.of_append
  cases hstep with
  | step holder hpermitted => exact ⟨_, m', holder, hpermitted, hnewer⟩

end Trail

/-- In a run of a protocol the steps of each use case are a trail of it. -/
theorem Run.trail {δ : Protocol γ π σ} {init : ι → σ} {log : List (Entry ι γ π)} {stage : ι → σ}
    (h : Run δ init log stage) (i : ι) : Trail δ (init i) (stepsOf i log) (stage i) := by
  induction h with
  | nil => exact .nil
  | delete _ ih =>
    rw [stepsOf_delete]
    exact ih
  | @act log stage j a t _ _ hpermitted ih =>
    by_cases hij : j = i
    · subst hij
      rw [stepsOf_act_self, Function.update_self]
      exact .step ih hpermitted
    · rw [stepsOf_act_of_ne hij, Function.update_of_ne (Ne.symm hij)]
      exact ih

theorem Run.always {δ : Protocol γ π σ} {init : ι → σ} {P : ι → σ → Prop}
    (hinit : ∀ i, P i (init i)) (hstep : ∀ i s a t, P i s → δ s a t → P i t)
    {log : List (Entry ι γ π)} {stage : ι → σ} (h : Run δ init log stage) (i : ι) :
    P i (stage i) :=
  (h.trail i).always (hinit i) (hstep i)

theorem Run.of_mem {δ : Protocol γ π σ} {init : ι → σ} {P : σ → Prop} {a : Act γ π}
    (hbegin : ∀ s t, δ s a t → P t) (hstay : ∀ s b t, P s → δ s b t → P t)
    {log : List (Entry ι γ π)} {stage : ι → σ} (h : Run δ init log stage) {i : ι}
    (hmem : Entry.act i a ∈ log) : P (stage i) :=
  (h.trail i).of_mem (mem_stepsOf.2 hmem) hbegin hstay

theorem Run.exists_mem {δ : Protocol γ π σ} {init : ι → σ} {P : σ → Prop} {Q : Act γ π → Prop}
    (hinit : ∀ i, ¬ P (init i)) (hstep : ∀ s a t, δ s a t → P t → P s ∨ Q a)
    {log : List (Entry ι γ π)} {stage : ι → σ} (h : Run δ init log stage) {i : ι}
    (hi : P (stage i)) : ∃ a, Entry.act i a ∈ log ∧ Q a := by
  obtain ⟨a, hmem, ha⟩ := (h.trail i).exists_mem (hinit i) hstep hi
  exact ⟨a, mem_stepsOf.1 hmem, ha⟩

/-! ## The trail that a use case leaves -/

/-- The use case goes on so if its next step is answered so. -/
def Workflow.Takes : Protocol γ π (Workflow γ π α) := fun w a w' =>
  ∃ store x store', (∀ id p, Store.find? store id = some p → p.id = id ∧ p.events = []) ∧
    w.advance store x = some (a, store', w')

/-- The steps of a use case lead from what it was at first to what is left of it. -/
theorem trail_play (start : ι → Workflow γ π α) (moves : List (Move ι)) (i : ι) :
    Trail Workflow.Takes (start i) (stepsOf i (Floor.play start moves).log)
      ((Floor.play start moves).running i) := by
  induction moves using List.reverseRecOn with
  | nil => exact .nil
  | append_singleton moves m ih =>
    rw [Floor.play_append_singleton]
    have hstore := store_play start moves
    generalize Floor.play start moves = f at ih hstore ⊢
    cases m with
    | delete id => exact (stepsOf_delete i id f.log).symm ▸ ih
    | step j x =>
      cases hadvance : (f.running j).advance f.store x with
      | none =>
        rw [Floor.move_step_of_none hadvance]
        exact ih
      | some next =>
        obtain ⟨a, s', w⟩ := next
        rw [Floor.move_step_of_some hadvance]
        by_cases hij : j = i
        · subst hij
          have lawful : ∀ id p, f.store.find? id = some p → p.id = id ∧ p.events = [] := by
            rw [hstore]
            exact fun id p hp => find?_replay hp
          rw [stepsOf_act_self]
          refine .step ih ⟨f.store, x, s', lawful, ?_⟩
          simpa using hadvance
        · rw [stepsOf_act_of_ne hij]
          simpa [Ne.symm hij] using ih

/-- The steps of a use case that keeps to a protocol are a trail of it. -/
theorem Workflow.Keeps.trail {δ : Protocol γ π σ} {post : σ → α → Prop} {s : σ}
    {w w' : Workflow γ π α} {acts : List (Act γ π)} (h : w.Keeps δ post s)
    (htrail : Trail Workflow.Takes w acts w') : ∃ t, Trail δ s acts t ∧ w'.Keeps δ post t := by
  induction htrail with
  | nil => exact ⟨s, .nil, h⟩
  | step _ htakes ih =>
    obtain ⟨t, hbefore, hkeeps⟩ := ih
    obtain ⟨store, x, store', lawful, hadvance⟩ := htakes
    obtain ⟨u, hpermitted, hrest⟩ := hkeeps.advance lawful hadvance
    exact ⟨u, .step hbefore hpermitted, hrest⟩

/-- A use case that keeps to a protocol leaves a trail of it, whatever the others do. -/
theorem exists_trail_play {δ : Protocol γ π σ} {post : σ → α → Prop} {s : σ}
    (start : ι → Workflow γ π α) {i : ι} (h : (start i).Keeps δ post s) (moves : List (Move ι)) :
    ∃ t, Trail δ s (stepsOf i (Floor.play start moves).log) t ∧
      ((Floor.play start moves).running i).Keeps δ post t :=
  h.trail (trail_play start moves i)

/-! ## Where a step comes from -/

/-- A step in the log stems from a move, made when the log said what stands before it. -/
theorem exists_move_of_log {start : ι → Workflow γ π α} {moves : List (Move ι)} {i : ι}
    {a : Act γ π} {later earlier : List (Entry ι γ π)}
    (h : (Floor.play start moves).log = later ++ .act i a :: earlier) :
    ∃ first x rest, moves = first ++ .step i x :: rest ∧ (Floor.play start first).log = earlier ∧
      ∃ s w, ((Floor.play start first).running i).advance (Floor.play start first).store x =
        some (a, s, w) := by
  induction moves using List.reverseRecOn generalizing later with
  | nil => simp [Floor.play, Floor.opened] at h
  | append_singleton moves m ih =>
    rw [Floor.play_append_singleton] at h
    -- either the move itself has left the step, or one of the moves before it
    have hbefore : ∀ {later'}, (Floor.play start moves).log = later' ++ .act i a :: earlier →
        ∃ first x rest, moves ++ [m] = first ++ .step i x :: rest ∧
          (Floor.play start first).log = earlier ∧
          ∃ s w, ((Floor.play start first).running i).advance (Floor.play start first).store x =
            some (a, s, w) := by
      intro later' hlog
      obtain ⟨first, x, rest, rfl, hrest⟩ := ih hlog
      exact ⟨first, x, rest ++ [m], by simp, hrest⟩
    cases m with
    | delete id =>
      cases later with
      | nil => simp [Floor.move] at h
      | cons e later => exact hbefore (List.cons.inj h).2
    | step j x =>
      cases hadvance : ((Floor.play start moves).running j).advance (Floor.play start moves).store x
      with
      | none =>
        rw [Floor.move_step_of_none hadvance] at h
        exact hbefore h
      | some next =>
        obtain ⟨b, s, w⟩ := next
        rw [Floor.move_step_of_some hadvance] at h
        cases later with
        | cons e later => exact hbefore (List.cons.inj h).2
        | nil =>
          obtain ⟨hhead, hlog⟩ := List.cons.inj h
          cases hhead
          exact ⟨moves, x, [], rfl, hlog, s, w, hadvance⟩

theorem fits_of_log {start : ι → Workflow γ π α} {moves : List (Move ι)} {i : ι} {a : Act γ π}
    {later earlier : List (Entry ι γ π)}
    (h : (Floor.play start moves).log = later ++ .act i a :: earlier) : a.Fits (replay earlier) := by
  obtain ⟨first, x, rest, -, hlog, s, w, hadvance⟩ := exists_move_of_log h
  rw [← hlog, ← store_play]
  exact (advance_fits hadvance).1

theorem one_le_version_of_play {start : ι → Workflow γ π α} {moves : List (Move ι)} {id : PaymentId}
    {p : Payment} (h : (Floor.play start moves).store.find? id = some p) : 1 ≤ p.version := by
  rw [store_play] at h
  have hfits : ∀ later earlier i a, (Floor.play start moves).log = later ++ .act i a :: earlier →
      a.Fits (replay earlier) := fun _ _ _ _ hlog => fits_of_log hlog
  generalize (Floor.play start moves).log = log at h hfits
  induction log with
  | nil => simp [replay] at h
  | cons e log ih =>
    have hold : (replay log).find? id = some p → 1 ≤ p.version := fun hp =>
      ih hp fun later earlier i a hlog => hfits (e :: later) earlier i a (by rw [hlog]; rfl)
    cases e with
    | delete other =>
      rw [replay, Store.find?_delete] at h
      split at h
      · simp at h
      · exact hold h
    | act i a =>
      rw [replay] at h
      unfold Act.apply at h
      split at h
      · rename_i q version
        rw [Store.find?_insert] at h
        split at h
        · cases h
          have hnext : .ok version = (replay log).nextVersion q := hfits [] log i _ rfl
          unfold Store.nextVersion at hnext
          show 1 ≤ version
          split at hnext <;> split at hnext <;> cases hnext <;> omega
        · exact hold h
      · exact hold h

theorem one_le_version_of_mem_find {start : ι → Workflow γ π α} {moves : List (Move ι)} {i : ι}
    {id : PaymentId} {p : Payment}
    (h : Entry.act i (.find id (some p)) ∈ (Floor.play start moves).log) : 1 ≤ p.version := by
  obtain ⟨later, earlier, hlog⟩ := List.append_of_mem h
  have hfits : some p = (replay earlier).find? id := fits_of_log hlog
  obtain ⟨first, x, rest, -, hfirst, -⟩ := exists_move_of_log hlog
  rw [← hfirst, ← store_play] at hfits
  exact one_le_version_of_play hfits.symm

theorem exists_log_foldl (f : Floor ι γ π α) {i : ι} {own : List (Move ι)}
    (hown : ∀ m ∈ own, ∃ x, m = .step i x) :
    ∃ mine, (own.foldl Floor.move f).log = mine ++ f.log ∧ ∀ e ∈ mine, e.IsBy i := by
  induction own generalizing f with
  | nil => exact ⟨[], rfl, fun e he => absurd he List.not_mem_nil⟩
  | cons m rest ih =>
    obtain ⟨mine, hlog, hmine⟩ := ih (f.move m) fun m' hm' => hown m' (List.mem_cons_of_mem m hm')
    obtain ⟨x, rfl⟩ := hown m List.mem_cons_self
    rw [List.foldl_cons, hlog]
    cases hadvance : (f.running i).advance f.store x with
    | none => exact ⟨mine, by rw [Floor.move_step_of_none hadvance], hmine⟩
    | some next =>
      rw [Floor.move_step_of_some hadvance]
      refine ⟨mine ++ [.act i next.1], by simp, fun e he => ?_⟩
      rcases List.mem_append.1 he with hmem | hnew
      · exact hmine e hmem
      · rw [List.mem_singleton.1 hnew]
        exact (rfl : i = i)

theorem not_isBy_play {start : ι → Workflow γ π α} {moves : List (Move ι)} {i : ι}
    (h : ∀ x, .step i x ∉ moves) : ∀ e ∈ (Floor.play start moves).log, ¬ e.IsBy i := by
  intro e he hby
  cases e with
  | delete id => exact hby
  | act j a =>
    obtain rfl : j = i := hby
    obtain ⟨later, earlier, hlog⟩ := List.append_of_mem he
    obtain ⟨first, x, rest, rfl, -⟩ := exists_move_of_log hlog
    exact h x (by simp)

/-! ## Leaving one out -/

/-- The two floors differ in nothing but how far one use case is, and in their logs. -/
structure Floor.AgreeBut (i : ι) (f g : Floor ι γ π α) : Prop where
  store : f.store = g.store
  running : ∀ j, j ≠ i → f.running j = g.running j

omit [DecidableEq ι] in
theorem Floor.AgreeBut.refl (i : ι) (f : Floor ι γ π α) : AgreeBut i f f :=
  ⟨rfl, fun _ _ => rfl⟩

/-- The moves of all others. -/
def Move.without (i : ι) (moves : List (Move ι)) : List (Move ι) :=
  moves.filter fun
    | .step j _ => j ≠ i
    | .delete _ => true

/-- The payment that a step stores, if it does. -/
def Act.stored : Act γ π → Option Payment
  | .save q (.ok version) => some (q.withVersion version)
  | _ => none

/-- What a use case has stored, the newest first. -/
def storedBy (i : ι) (log : List (Entry ι γ π)) : List Payment :=
  (stepsOf i log).filterMap Act.stored

theorem Act.apply_of_stored_eq_none {a : Act γ π} (h : a.stored = none) (s : Store) :
    a.apply s = s := by
  unfold Act.apply
  split
  · simp [Act.stored] at h
  · rfl

theorem storedBy_append (i : ι) (later log : List (Entry ι γ π)) :
    storedBy i (later ++ log) = storedBy i later ++ storedBy i log := by
  unfold storedBy
  rw [stepsOf_append, List.filterMap_append]

theorem storedBy_save (i : ι) (q : Payment) (version : Nat) (log : List (Entry ι γ π)) :
    storedBy i (.act i (.save q (.ok version)) :: log) =
      q.withVersion version :: storedBy i log := by
  unfold storedBy
  rw [stepsOf_act_self]
  rfl

theorem Floor.log_suffix_move (f : Floor ι γ π α) (m : Move ι) : f.log <:+ (f.move m).log := by
  cases m with
  | delete id => exact List.suffix_cons _ _
  | step j x =>
    cases hadvance : (f.running j).advance f.store x with
    | none =>
      rw [Floor.move_step_of_none hadvance]
    | some next =>
      rw [Floor.move_step_of_some hadvance]
      exact List.suffix_cons _ _

theorem storedBy_suffix_move (i : ι) (f : Floor ι γ π α) (m : Move ι) :
    storedBy i f.log <:+ storedBy i (f.move m).log :=
  ((f.log_suffix_move m).filterMap _).filterMap _

theorem storedBy_suffix_foldl (i : ι) (f : Floor ι γ π α) (moves : List (Move ι)) :
    storedBy i f.log <:+ storedBy i (moves.foldl Floor.move f).log := by
  induction moves generalizing f with
  | nil => exact List.suffix_rfl
  | cons m rest ih => exact (storedBy_suffix_move i f m).trans (ih (f.move m))

/-- A move of somebody who stores nothing by it makes no difference for the others. -/
theorem Floor.AgreeBut.idle {i : ι} {f g : Floor ι γ π α} (h : AgreeBut i f g) {x : Outside}
    (hquiet : storedBy i (f.move (.step i x)).log = storedBy i f.log) :
    AgreeBut i (f.move (.step i x)) g := by
  cases hadvance : (f.running i).advance f.store x with
  | none => rwa [move_step_of_none hadvance]
  | some next =>
    obtain ⟨a, s, w⟩ := next
    rw [move_step_of_some hadvance] at hquiet ⊢
    have hnone : a.stored = none := by
      cases hstored : a.stored with
      | none => rfl
      | some q =>
        unfold storedBy at hquiet
        rw [stepsOf_act_self, List.filterMap_cons_some hstored] at hquiet
        exact absurd hquiet (List.cons_ne_self _ _)
    constructor
    · show s = g.store
      rw [(advance_fits hadvance).2, Act.apply_of_stored_eq_none hnone, h.store]
    · intro j hj
      show Function.update f.running i w j = g.running j
      rw [Function.update_of_ne hj, h.running j hj]

theorem Floor.AgreeBut.move_step {i j : ι} {f g : Floor ι γ π α} (h : AgreeBut i f g) (hj : j ≠ i)
    (x : Outside) : AgreeBut i (f.move (.step j x)) (g.move (.step j x)) := by
  have hsame : (g.running j).advance g.store x = (f.running j).advance f.store x := by
    rw [h.store, h.running j hj]
  cases hadvance : (f.running j).advance f.store x with
  | none =>
    rw [move_step_of_none hadvance, move_step_of_none (hsame.trans hadvance)]
    exact h
  | some next =>
    rw [move_step_of_some hadvance, move_step_of_some (hsame.trans hadvance)]
    refine ⟨rfl, fun k hk => ?_⟩
    by_cases hkj : k = j
    · subst hkj
      simp
    · simpa [hkj] using h.running k hk

/-- Who stores nothing during some moves can be left out of them. -/
theorem Floor.AgreeBut.foldl {i : ι} {f g : Floor ι γ π α} (h : AgreeBut i f g)
    (moves : List (Move ι))
    (hquiet : storedBy i (moves.foldl Floor.move f).log = storedBy i f.log) :
    AgreeBut i (moves.foldl Floor.move f) ((Move.without i moves).foldl Floor.move g) := by
  induction moves generalizing f g with
  | nil => exact h
  | cons m rest ih =>
    have hnow : storedBy i (f.move m).log = storedBy i f.log := by
      have hlater := storedBy_suffix_foldl i (f.move m) rest
      rw [← List.foldl_cons, hquiet] at hlater
      exact hlater.eq_of_length_le (storedBy_suffix_move i f m).length_le
    have hrest := hquiet.trans hnow.symm
    rw [List.foldl_cons] at hrest ⊢
    cases m with
    | delete id => exact ih ⟨congrArg (Store.delete · id) h.store, h.running⟩ hrest
    | step j x =>
      by_cases hj : j = i
      · subst hj
        have hdrop : Move.without j (.step j x :: rest) = Move.without j rest :=
          List.filter_cons_of_neg (by simp)
        rw [hdrop]
        exact ih (h.idle hnow) hrest
      · have hkeep : Move.without i (.step j x :: rest) = .step j x :: Move.without i rest :=
          List.filter_cons_of_pos (by simpa using hj)
        rw [hkeep]
        exact ih (h.move_step hj x) hrest

/-- Who stores once could as well not be there before that move, and after it. -/
theorem Floor.exists_lone_save {start : ι → Workflow γ π α} {moves : List (Move ι)} {i : ι}
    {p q : Payment} {version : Nat} {later earlier : List (Entry ι γ π)}
    (hlog : (play start moves).log = later ++ .act i (.save p (.ok version)) :: earlier)
    (hone : storedBy i (play start moves).log = [q]) :
    ∃ first x rest, moves = first ++ .step i x :: rest ∧ (play start first).log = earlier ∧
      (play start first).store = (play start (Move.without i first)).store ∧
      (play start first).store.nextVersion p = .ok version ∧
      (play start (first ++ [.step i x])).store =
        (play start first).store.insert (p.withVersion version) ∧
      (play start moves).store =
        ((Move.without i rest).foldl move (play start (first ++ [.step i x]))).store := by
  obtain ⟨first, x, rest, hmoves, hfirst, s, w, hadvance⟩ := exists_move_of_log hlog
  have hbefore : storedBy i earlier = [] := by
    have hlength := congrArg List.length hone
    rw [hlog, storedBy_append, storedBy_save] at hlength
    simp only [List.length_append, List.length_cons, List.length_nil] at hlength
    exact List.eq_nil_of_length_eq_zero (by omega)
  have hsaved := move_step_of_some hadvance
  rw [← play_append_singleton] at hsaved
  obtain ⟨hfits, happly⟩ := advance_fits hadvance
  refine ⟨first, x, rest, hmoves, hfirst, ?_, hfits.symm, ?_, ?_⟩
  · refine ((AgreeBut.refl i (opened start)).foldl first ?_).store
    show storedBy i (play start first).log = []
    rw [hfirst, hbefore]
  · rw [hsaved]
    exact happly
  · have hfloor : play start moves = rest.foldl move (play start (first ++ [.step i x])) := by
      unfold play
      rw [hmoves, ← List.foldl_append]
      simp
    have hquiet : storedBy i (play start moves).log =
        storedBy i (play start (first ++ [.step i x])).log := by
      have hafter : storedBy i (play start (first ++ [.step i x])).log = [p.withVersion version] := by
        rw [hsaved, hfirst, storedBy_save, hbefore]
      have hmem : p.withVersion version ∈ storedBy i (play start moves).log := by
        rw [hlog, storedBy_append, storedBy_save]
        simp
      rw [hone, List.mem_singleton] at hmem
      rw [hone, hafter, hmem]
    rw [hfloor] at hquiet ⊢
    exact ((AgreeBut.refl i _).foldl rest hquiet).store

/-! ## Coming to an end -/

/-- Some steps of the use case bring it to its end. -/
def Floor.Finishes (i : ι) (x : Outside) (f : Floor ι γ π α) : Prop :=
  ∃ n, (((List.replicate n (.step i x)).foldl Floor.move f).running i).isDone = true

theorem Floor.Finishes.of_advance {f : Floor ι γ π α} {i : ι} {x : Outside} {a : Act γ π}
    {s : Store} {w w' : Workflow γ π α} (hw : f.running i = w)
    (hadvance : w.advance f.store x = some (a, s, w'))
    (hrest : ∀ g : Floor ι γ π α, g.running i = w' → g.Finishes i x) : f.Finishes i x := by
  subst hw
  have hmove := Floor.move_step_of_some hadvance
  obtain ⟨n, hn⟩ := hrest (f.move (.step i x)) (by rw [hmove]; simp)
  exact ⟨n + 1, hn⟩

/-- Whoever is given enough steps comes to its end. -/
theorem Floor.finishes (f : Floor ι γ π α) (i : ι) (x : Outside) : f.Finishes i x := by
  generalize hw : f.running i = w
  induction w generalizing f with
  | done a => exact ⟨0, by simp [hw, Workflow.isDone]⟩
  | save p next ih =>
    cases hv : f.store.nextVersion p with
    | ok version => exact .of_advance hw (advance_save_ok hv) fun g hg => ih _ g hg
    | error why => exact .of_advance hw (advance_save_error hv) fun g hg => ih _ g hg
  | clock next ih => exact .of_advance hw rfl fun g hg => ih _ g hg
  | freshId next ih => exact .of_advance hw rfl fun g hg => ih _ g hg
  | find id next ih => exact .of_advance hw rfl fun g hg => ih _ g hg
  | list query next ih => exact .of_advance hw rfl fun g hg => ih _ g hg
  | pay gateway order next ih => exact .of_advance hw rfl fun g hg => ih _ g hg
  | offer listener event next ih => exact .of_advance hw rfl fun g hg => ih _ g hg
  | warn notice next ih => exact .of_advance hw rfl fun g hg => ih g hg

/-- After any moves, some steps of its own bring the use case to a result. -/
theorem Floor.exists_done (start : ι → Workflow γ π α) (moves : List (Move ι)) (i : ι)
    (x : Outside) :
    ∃ n a, (play start (moves ++ List.replicate n (.step i x))).running i = .done a := by
  obtain ⟨n, hdone⟩ := (play start moves).finishes i x
  have hfloor : (List.replicate n (.step i x)).foldl move (play start moves) =
      play start (moves ++ List.replicate n (.step i x)) := by
    show _ = List.foldl move _ _
    rw [List.foldl_append]
    rfl
  rw [hfloor] at hdone
  obtain ⟨a, ha⟩ := Workflow.eq_done_of_isDone hdone
  exact ⟨n, a, ha⟩

end Paydesk
