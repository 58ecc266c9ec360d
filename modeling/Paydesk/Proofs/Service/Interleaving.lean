import Paydesk.Service.Workflow
import Mathlib.Data.List.Induction
import Mathlib.Logic.Function.Basic

/-!
# Interleavings of use cases

Any number of use cases over one store. Each move lets one of them take its next step, or takes a
payment out of the store; what the world outside answers (the time, a new name, a provider, a
listener) comes with the move. Every list of moves is a run, so a statement about all lists of moves
is one about all orders of steps and all answers.

1. `Workflow.advance` is one step of one use case, and `Floor.play` plays moves. The log of a run
   holds every step with its answer, the newest first, and tells what is stored (`replay`).
2. A protocol says which steps a use case may take (`Protocol`), and `Workflow.Keeps` that it keeps
   to it whatever it is answered. It is proved of a use case as of a sequential program
   (`keeps_bind`).
3. The log of use cases that keep to a protocol is a `Run` of it (`exists_run_play`). What holds of
   every run is then proved by induction on `Run`, without a look at any use case.
-/

namespace Paydesk

variable {ι γ π α β σ τ : Type}

/-! ## Steps and moves -/

/-- A step of a use case with its answer. A save is answered with the new version. -/
inductive Act (γ π : Type) where
  | clock (time : Instant)
  | freshId (id : PaymentId)
  | find (id : PaymentId) (found : Option Payment)
  | list (query : Store.Query) (found : List Payment)
  | save (payment : Payment) (version : Except Conflict Nat)
  | pay (gateway : γ) (order : RefundOrder) (reply : Except GatewayError RefundReply)
  | offer (listener : π) (event : Event) (delivery : Delivery)
  | warn (notice : Notice)

/-- What the world outside would answer at a moment. -/
structure Outside where
  time : Instant
  id : PaymentId
  reply : Except GatewayError RefundReply
  delivery : Delivery

/-- The next step of a use case, the store after it, and the rest of the use case. -/
def Workflow.advance (s : Store) (x : Outside) :
    Workflow γ π α → Option (Act γ π × Store × Workflow γ π α)
  | .done _ => none
  | .clock next => some (.clock x.time, s, next x.time)
  | .freshId next => some (.freshId x.id, s, next x.id)
  | .find id next => some (.find id (s.find? id), s, next (.ok (s.find? id)))
  | .list query next => some (.list query (s.run query), s, next (.ok (s.run query)))
  | .save p next =>
    match s.save p with
    | .ok (saved, stored) => some (.save p (.ok saved.version), stored, next (.ok saved))
    | .error why => some (.save p (.error why), s, next (.error (.conflict why)))
  | .pay gateway order next => some (.pay gateway order x.reply, s, next x.reply)
  | .offer listener event next =>
    some (.offer listener event x.delivery, s, next x.delivery)
  | .warn notice next => some (.warn notice, s, next)

/-- There is no step left. -/
def Workflow.isDone : Workflow γ π α → Bool
  | .done _ => true
  | _ => false

theorem Workflow.eq_done_of_isDone {w : Workflow γ π α} (h : w.isDone = true) :
    ∃ a, w = .done a := by
  cases w with
  | done a => exact ⟨a, rfl⟩
  | _ => cases h

/-- There is no step left, and the result passes a test. -/
def Workflow.endsIn (test : α → Bool) : Workflow γ π α → Bool
  | .done a => test a
  | _ => false

theorem Workflow.eq_done_of_endsIn {test : α → Bool} {w : Workflow γ π α}
    (h : w.endsIn test = true) : ∃ a, w = .done a ∧ test a = true := by
  cases w with
  | done a => exact ⟨a, rfl, h⟩
  | _ => cases h

/-- What a run writes down: a step of one use case, or a payment that was taken out. -/
inductive Entry (ι γ π : Type) where
  | act (who : ι) (what : Act γ π)
  | delete (id : PaymentId)

/-- The use case has taken the step. -/
def Entry.IsBy (i : ι) : Entry ι γ π → Prop
  | .act j _ => j = i
  | .delete _ => False

/-- What may happen next in a run. -/
inductive Move (ι : Type) where
  | step (who : ι) (outside : Outside)
  | delete (id : PaymentId)

/-- A store, the use cases that work on it, and the log, the newest entry first. -/
structure Floor (ι γ π α : Type) where
  store : Store
  running : ι → Workflow γ π α
  log : List (Entry ι γ π)

namespace Floor

variable [DecidableEq ι]

/-- An empty store, and use cases that have done nothing yet. -/
def opened (start : ι → Workflow γ π α) : Floor ι γ π α :=
  ⟨.empty, start, []⟩

/-- The floor after a move. A use case that is done takes no step. -/
def move (f : Floor ι γ π α) : Move ι → Floor ι γ π α
  | .step i x =>
    match (f.running i).advance f.store x with
    | none => f
    | some (a, s, w) => ⟨s, Function.update f.running i w, .act i a :: f.log⟩
  | .delete id => ⟨f.store.delete id, f.running, .delete id :: f.log⟩

/-- The floor after moves in a row. -/
def play (start : ι → Workflow γ π α) (moves : List (Move ι)) : Floor ι γ π α :=
  moves.foldl move (opened start)

theorem move_step_of_none {f : Floor ι γ π α} {i : ι} {x : Outside}
    (h : (f.running i).advance f.store x = none) : f.move (.step i x) = f := by
  simp only [move, h]

theorem move_step_of_some {f : Floor ι γ π α} {i : ι} {x : Outside} {a : Act γ π} {s : Store}
    {w : Workflow γ π α} (h : (f.running i).advance f.store x = some (a, s, w)) :
    f.move (.step i x) = ⟨s, Function.update f.running i w, .act i a :: f.log⟩ := by
  simp only [move, h]

theorem play_append_singleton (start : ι → Workflow γ π α) (moves : List (Move ι)) (m : Move ι) :
    play start (moves ++ [m]) = (play start moves).move m := by
  unfold play
  rw [List.foldl_append]
  rfl

end Floor

/-! ## What the log tells -/

def Act.apply (s : Store) : Act γ π → Store
  | .save p (.ok version) => s.insert (p.withVersion version)
  | _ => s

/-- The store answers the step so. -/
def Act.Fits (s : Store) : Act γ π → Prop
  | .find id found => found = s.find? id
  | .list query found => found = s.run query
  | .save p version => version = s.nextVersion p
  | _ => True

/-- The store after what a log says, the newest entry first. -/
def replay : List (Entry ι γ π) → Store
  | [] => .empty
  | .act _ a :: log => a.apply (replay log)
  | .delete id :: log => (replay log).delete id

theorem advance_save_ok {s : Store} {x : Outside} {p : Payment} {version : Nat}
    {next : Except StoreError Payment → Workflow γ π α} (h : s.nextVersion p = .ok version) :
    (Workflow.save p next).advance s x =
      some (.save p (.ok version), s.insert (p.withVersion version),
        next (.ok (p.withVersion version))) := by
  simp only [Workflow.advance, Store.save, h, Except.map]
  rfl

theorem advance_save_error {s : Store} {x : Outside} {p : Payment} {why : Conflict}
    {next : Except StoreError Payment → Workflow γ π α} (h : s.nextVersion p = .error why) :
    (Workflow.save p next).advance s x =
      some (.save p (.error why), s, next (.error (.conflict why))) := by
  simp only [Workflow.advance, Store.save, h, Except.map]

theorem advance_fits {s s' : Store} {x : Outside} {w w' : Workflow γ π α} {a : Act γ π}
    (h : w.advance s x = some (a, s', w')) : a.Fits s ∧ s' = a.apply s := by
  cases w with
  | done a => simp [Workflow.advance] at h
  | save p next =>
    cases hv : s.nextVersion p with
    | error why =>
      rw [advance_save_error hv] at h
      cases h
      exact ⟨hv.symm, rfl⟩
    | ok version =>
      rw [advance_save_ok hv] at h
      cases h
      exact ⟨hv.symm, rfl⟩
  | _ =>
    cases h
    exact ⟨by first | rfl | trivial, rfl⟩

theorem store_play [DecidableEq ι] (start : ι → Workflow γ π α) (moves : List (Move ι)) :
    (Floor.play start moves).store = replay (Floor.play start moves).log := by
  induction moves using List.reverseRecOn with
  | nil => rfl
  | append_singleton moves m ih =>
    rw [Floor.play_append_singleton]
    generalize Floor.play start moves = f at ih ⊢
    cases m with
    | delete id =>
      show f.store.delete id = (replay f.log).delete id
      rw [ih]
    | step i x =>
      cases hadvance : (f.running i).advance f.store x with
      | none => rwa [Floor.move_step_of_none hadvance]
      | some next =>
        obtain ⟨a, s, w⟩ := next
        rw [Floor.move_step_of_some hadvance]
        show s = a.apply (replay f.log)
        rw [(advance_fits hadvance).2, ih]

theorem mem_of_delete_mem_play [DecidableEq ι] {start : ι → Workflow γ π α} {moves : List (Move ι)}
    {id : PaymentId} (h : Entry.delete id ∈ (Floor.play start moves).log) :
    Move.delete id ∈ moves := by
  induction moves using List.reverseRecOn with
  | nil => exact absurd h List.not_mem_nil
  | append_singleton moves m ih =>
    rw [Floor.play_append_singleton] at h
    cases m with
    | delete other =>
      rcases List.mem_cons.1 h with heq | hold
      · cases heq
        simp
      · exact List.mem_append_left _ (ih hold)
    | step i x =>
      refine List.mem_append_left _ (ih ?_)
      cases hadvance : ((Floor.play start moves).running i).advance (Floor.play start moves).store x
      with
      | none => rwa [Floor.move_step_of_none hadvance] at h
      | some next =>
        obtain ⟨a, s, w⟩ := next
        rw [Floor.move_step_of_some hadvance] at h
        simpa using h

theorem delete_not_mem_play [DecidableEq ι] (start : ι → Workflow γ π α)
    (steps : List (ι × Outside)) (id : PaymentId) :
    Entry.delete id ∉ (Floor.play start (steps.map fun step => .step step.1 step.2)).log := by
  intro h
  simpa using mem_of_delete_mem_play h

/-- Stored payments are found under their own names and have no waiting events. -/
theorem find?_replay {log : List (Entry ι γ π)} {id : PaymentId} {p : Payment}
    (h : (replay log).find? id = some p) : p.id = id ∧ p.events = [] := by
  induction log with
  | nil => simp [replay] at h
  | cons e log ih =>
    cases e with
    | delete other =>
      rw [replay, Store.find?_delete] at h
      split at h
      · simp at h
      · exact ih h
    | act i a =>
      rw [replay] at h
      unfold Act.apply at h
      split at h
      · rw [Store.find?_insert] at h
        split at h
        · rename_i hid
          cases h
          exact ⟨hid, rfl⟩
        · exact ih h
      · exact ih h

/-! ## Protocols -/

/-- Which steps are permitted in a stage, and the stages after them. -/
abbrev Protocol (γ π σ : Type) : Type :=
  σ → Act γ π → σ → Prop

/-- From the stage `s` on, the use case takes permitted steps only, whatever it is answered, and
ends with a result that `post` admits in the stage it has come to. -/
def Workflow.Keeps (δ : Protocol γ π σ) (post : σ → α → Prop) : σ → Workflow γ π α → Prop
  | s, .done a => post s a
  | s, .clock next => ∀ time, ∃ t, δ s (.clock time) t ∧ Keeps δ post t (next time)
  | s, .freshId next => ∀ id, ∃ t, δ s (.freshId id) t ∧ Keeps δ post t (next id)
  | s, .find id next => ∀ found, (∀ p ∈ found, p.id = id ∧ p.events = []) →
      ∃ t, δ s (.find id found) t ∧ Keeps δ post t (next (.ok found))
  | s, .list query next => ∀ found,
      ∃ t, δ s (.list query found) t ∧ Keeps δ post t (next (.ok found))
  | s, .save p next =>
      (∀ version, ∃ t, δ s (.save p (.ok version)) t ∧
        Keeps δ post t (next (.ok (p.withVersion version)))) ∧
      ∀ why, ∃ t, δ s (.save p (.error why)) t ∧
        Keeps δ post t (next (.error (.conflict why)))
  | s, .pay gateway order next => ∀ reply,
      ∃ t, δ s (.pay gateway order reply) t ∧ Keeps δ post t (next reply)
  | s, .offer listener event next => ∀ delivery,
      ∃ t, δ s (.offer listener event delivery) t ∧ Keeps δ post t (next delivery)
  | s, .warn notice next => ∃ t, δ s (.warn notice) t ∧ Keeps δ post t next

/-- A use case keeps to a protocol if its first part does, up to stages from which the rest does. -/
theorem keeps_bind {δ : Protocol γ π σ} {mid : σ → α → Prop} {post : σ → β → Prop} {s : σ}
    {w : Workflow γ π α} {f : α → Workflow γ π β} (h : w.Keeps δ mid s)
    (hrest : ∀ t a, mid t a → (f a).Keeps δ post t) : (w.bind f).Keeps δ post s := by
  induction w generalizing s with
  | done a => exact hrest s a h
  | clock next ih =>
    intro time
    obtain ⟨t, hstep, hrest⟩ := h time
    exact ⟨t, hstep, ih time hrest⟩
  | freshId next ih =>
    intro id
    obtain ⟨t, hstep, hrest⟩ := h id
    exact ⟨t, hstep, ih id hrest⟩
  | find id next ih =>
    intro found lawful
    obtain ⟨t, hstep, hrest⟩ := h found lawful
    exact ⟨t, hstep, ih _ hrest⟩
  | list query next ih =>
    intro found
    obtain ⟨t, hstep, hrest⟩ := h found
    exact ⟨t, hstep, ih _ hrest⟩
  | save p next ih =>
    refine ⟨fun version => ?_, fun why => ?_⟩
    · obtain ⟨t, hstep, hrest⟩ := h.1 version
      exact ⟨t, hstep, ih _ hrest⟩
    · obtain ⟨t, hstep, hrest⟩ := h.2 why
      exact ⟨t, hstep, ih _ hrest⟩
  | pay gateway order next ih =>
    intro reply
    obtain ⟨t, hstep, hrest⟩ := h reply
    exact ⟨t, hstep, ih _ hrest⟩
  | offer listener event next ih =>
    intro delivery
    obtain ⟨t, hstep, hrest⟩ := h delivery
    exact ⟨t, hstep, ih _ hrest⟩
  | warn notice next ih =>
    obtain ⟨t, hstep, hrest⟩ := h
    exact ⟨t, hstep, ih hrest⟩

theorem Workflow.keeps_done {δ : Protocol γ π σ} {post : σ → α → Prop} {s : σ} {a : α} :
    (Workflow.done a : Workflow γ π α).Keeps δ post s ↔ post s a :=
  Iff.rfl

/-- The result of a use case that is done fits the stage that it has come to. -/
theorem Workflow.Keeps.of_done {δ : Protocol γ π σ} {post : σ → α → Prop} {s : σ}
    {w : Workflow γ π α} {a : α} (h : w.Keeps δ post s) (hw : w = .done a) : post s a := by
  rw [hw] at h
  exact h

/-- What is made of a result in the end is what a use case ends with. -/
theorem Workflow.keeps_result (w : Workflow γ π α) (f : α → β) :
    (w.bind fun a => .done (f a)).Keeps (fun _ _ _ => True)
      (fun (_ : Unit) b => ∃ a, b = f a) () := by
  induction w with
  | done a => exact ⟨a, rfl⟩
  | clock next ih => exact fun time => ⟨(), trivial, ih time⟩
  | freshId next ih => exact fun id => ⟨(), trivial, ih id⟩
  | find id next ih => exact fun found _ => ⟨(), trivial, ih _⟩
  | list query next ih => exact fun found => ⟨(), trivial, ih _⟩
  | save p next ih => exact ⟨fun _ => ⟨(), trivial, ih _⟩, fun _ => ⟨(), trivial, ih _⟩⟩
  | pay gateway order next ih => exact fun reply => ⟨(), trivial, ih _⟩
  | offer listener event next ih => exact fun delivery => ⟨(), trivial, ih _⟩
  | warn notice next ih => exact ⟨(), trivial, ih⟩

/-- In a stage that no step leaves and that every result fits, a use case may do anything. -/
theorem Workflow.keeps_of_stays {δ : Protocol γ π σ} {post : σ → α → Prop} {s : σ}
    (hstays : ∀ a, δ s a s) (hpost : ∀ a, post s a) (w : Workflow γ π α) : w.Keeps δ post s := by
  induction w with
  | done a => exact hpost a
  | clock next ih => exact fun time => ⟨s, hstays _, ih time⟩
  | freshId next ih => exact fun id => ⟨s, hstays _, ih id⟩
  | find id next ih => exact fun found _ => ⟨s, hstays _, ih _⟩
  | list query next ih => exact fun found => ⟨s, hstays _, ih _⟩
  | save p next ih => exact ⟨fun _ => ⟨s, hstays _, ih _⟩, fun _ => ⟨s, hstays _, ih _⟩⟩
  | pay gateway order next ih => exact fun reply => ⟨s, hstays _, ih _⟩
  | offer listener event next ih => exact fun delivery => ⟨s, hstays _, ih _⟩
  | warn notice next ih => exact ⟨s, hstays _, ih⟩

/-- A use case that keeps to a protocol keeps to every coarser one. -/
theorem Workflow.Keeps.map {δ : Protocol γ π σ} {ε : Protocol γ π τ} {view : σ → τ}
    {post : σ → α → Prop} {post' : τ → α → Prop}
    (hstep : ∀ s a t, δ s a t → ε (view s) a (view t)) (hpost : ∀ s a, post s a → post' (view s) a)
    {s : σ} {w : Workflow γ π α} (h : w.Keeps δ post s) : w.Keeps ε post' (view s) := by
  induction w generalizing s with
  | done a => exact hpost s a h
  | clock next ih =>
    intro time
    obtain ⟨t, hpermitted, hrest⟩ := h time
    exact ⟨view t, hstep _ _ _ hpermitted, ih time hrest⟩
  | freshId next ih =>
    intro id
    obtain ⟨t, hpermitted, hrest⟩ := h id
    exact ⟨view t, hstep _ _ _ hpermitted, ih id hrest⟩
  | find id next ih =>
    intro found lawful
    obtain ⟨t, hpermitted, hrest⟩ := h found lawful
    exact ⟨view t, hstep _ _ _ hpermitted, ih _ hrest⟩
  | list query next ih =>
    intro found
    obtain ⟨t, hpermitted, hrest⟩ := h found
    exact ⟨view t, hstep _ _ _ hpermitted, ih _ hrest⟩
  | save p next ih =>
    refine ⟨fun version => ?_, fun why => ?_⟩
    · obtain ⟨t, hpermitted, hrest⟩ := h.1 version
      exact ⟨view t, hstep _ _ _ hpermitted, ih _ hrest⟩
    · obtain ⟨t, hpermitted, hrest⟩ := h.2 why
      exact ⟨view t, hstep _ _ _ hpermitted, ih _ hrest⟩
  | pay gateway order next ih =>
    intro reply
    obtain ⟨t, hpermitted, hrest⟩ := h reply
    exact ⟨view t, hstep _ _ _ hpermitted, ih _ hrest⟩
  | offer listener event next ih =>
    intro delivery
    obtain ⟨t, hpermitted, hrest⟩ := h delivery
    exact ⟨view t, hstep _ _ _ hpermitted, ih _ hrest⟩
  | warn notice next ih =>
    obtain ⟨t, hpermitted, hrest⟩ := h
    exact ⟨view t, hstep _ _ _ hpermitted, ih hrest⟩

/-- One step of a use case that keeps to a protocol is permitted, and the rest keeps to it. -/
theorem Workflow.Keeps.advance {δ : Protocol γ π σ} {post : σ → α → Prop} {s : σ}
    {w w' : Workflow γ π α} {store store' : Store} {x : Outside} {a : Act γ π}
    (h : w.Keeps δ post s)
    (lawful : ∀ id p, store.find? id = some p → p.id = id ∧ p.events = [])
    (hadvance : w.advance store x = some (a, store', w')) :
    ∃ t, δ s a t ∧ w'.Keeps δ post t := by
  cases w with
  | done a => simp [Workflow.advance] at hadvance
  | clock next =>
    cases hadvance
    exact h x.time
  | freshId next =>
    cases hadvance
    exact h x.id
  | find id next =>
    cases hadvance
    exact h (store.find? id) fun p hp => lawful id p hp
  | list query next =>
    cases hadvance
    exact h (store.run query)
  | save p next =>
    cases hv : store.nextVersion p with
    | error why =>
      rw [advance_save_error hv] at hadvance
      cases hadvance
      exact h.2 why
    | ok version =>
      rw [advance_save_ok hv] at hadvance
      cases hadvance
      exact h.1 version
  | pay gateway order next =>
    cases hadvance
    exact h x.reply
  | offer listener event next =>
    cases hadvance
    exact h x.delivery
  | warn notice next =>
    cases hadvance
    exact h

/-- A use case that may take no step is done. -/
theorem Workflow.Keeps.eq_done {δ : Protocol γ π σ} {post : σ → α → Prop} {s : σ}
    {w : Workflow γ π α} (h : w.Keeps δ post s) (hstuck : ∀ a t, ¬ δ s a t) :
    ∃ a, w = .done a ∧ post s a := by
  cases w with
  | done a => exact ⟨a, rfl, h⟩
  | clock next =>
    obtain ⟨t, hstep, -⟩ := h default
    exact absurd hstep (hstuck _ t)
  | freshId next =>
    obtain ⟨t, hstep, -⟩ := h (.make 0 0)
    exact absurd hstep (hstuck _ t)
  | find id next =>
    obtain ⟨t, hstep, -⟩ := h none (by simp)
    exact absurd hstep (hstuck _ t)
  | list query next =>
    obtain ⟨t, hstep, -⟩ := h []
    exact absurd hstep (hstuck _ t)
  | save p next =>
    obtain ⟨t, hstep, -⟩ := h.1 0
    exact absurd hstep (hstuck _ t)
  | pay gateway order next =>
    obtain ⟨t, hstep, -⟩ := h (.error .timedOut)
    exact absurd hstep (hstuck _ t)
  | offer listener event next =>
    obtain ⟨t, hstep, -⟩ := h .accepted
    exact absurd hstep (hstuck _ t)
  | warn notice next =>
    obtain ⟨t, hstep, -⟩ := h
    exact absurd hstep (hstuck _ t)

/-! ## Runs of a protocol -/

section Runs

variable [DecidableEq ι]

/-- A log that use cases leave that keep to a protocol, with the stages that they have come to. -/
inductive Run (δ : Protocol γ π σ) (init : ι → σ) : List (Entry ι γ π) → (ι → σ) → Prop
  | nil : Run δ init [] init
  | act {log : List (Entry ι γ π)} {stage : ι → σ} {i : ι} {a : Act γ π} {t : σ}
      (run : Run δ init log stage) (fits : a.Fits (replay log)) (permitted : δ (stage i) a t) :
      Run δ init (.act i a :: log) (Function.update stage i t)
  | delete {log : List (Entry ι γ π)} {stage : ι → σ} {id : PaymentId}
      (run : Run δ init log stage) : Run δ init (.delete id :: log) stage

/-- Use cases that keep to a protocol leave a run of it, whatever the moves are. -/
theorem exists_run_play {δ : Protocol γ π σ} {init : ι → σ} {post : ι → σ → α → Prop}
    {start : ι → Workflow γ π α} (h : ∀ i, (start i).Keeps δ (post i) (init i))
    (moves : List (Move ι)) :
    ∃ stage, Run δ init (Floor.play start moves).log stage ∧
      ∀ i, ((Floor.play start moves).running i).Keeps δ (post i) (stage i) := by
  induction moves using List.reverseRecOn with
  | nil => exact ⟨init, .nil, h⟩
  | append_singleton moves m ih =>
    rw [Floor.play_append_singleton]
    obtain ⟨stage, hrun, hkeeps⟩ := ih
    have hstore := store_play start moves
    generalize Floor.play start moves = f at hrun hstore hkeeps ⊢
    cases m with
    | delete id => exact ⟨stage, .delete hrun, hkeeps⟩
    | step i x =>
      cases hadvance : (f.running i).advance f.store x with
      | none =>
        rw [Floor.move_step_of_none hadvance]
        exact ⟨stage, hrun, hkeeps⟩
      | some next =>
        obtain ⟨a, s, w⟩ := next
        rw [Floor.move_step_of_some hadvance]
        have hfits := (advance_fits hadvance).1
        have lawful : ∀ id p, f.store.find? id = some p → p.id = id ∧ p.events = [] := by
          rw [hstore]
          exact fun id p hp => find?_replay hp
        obtain ⟨t, hpermitted, hrest⟩ := (hkeeps i).advance lawful hadvance
        rw [hstore] at hfits
        refine ⟨Function.update stage i t, .act hrun hfits hpermitted, fun j => ?_⟩
        by_cases hj : j = i
        · subst hj
          simpa using hrest
        · simpa [hj] using hkeeps j

theorem Run.map {δ : Protocol γ π σ} {ε : Protocol γ π τ} {view : σ → τ} {init : ι → σ}
    (hview : ∀ s a t, δ s a t → ε (view s) a (view t)) {log : List (Entry ι γ π)} {stage : ι → σ}
    (h : Run δ init log stage) : Run ε (view ∘ init) log (view ∘ stage) := by
  induction h with
  | nil => exact .nil
  | delete _ ih => exact .delete ih
  | act _ hfits hpermitted ih =>
    rw [Function.comp_update]
    exact .act ih hfits (hview _ _ _ hpermitted)

theorem Run.of_append {δ : Protocol γ π σ} {init : ι → σ} {later log : List (Entry ι γ π)}
    {stage : ι → σ} (h : Run δ init (later ++ log) stage) : ∃ stage', Run δ init log stage' := by
  induction later generalizing stage with
  | nil => exact ⟨stage, h⟩
  | cons e later ih =>
    cases h with
    | act hrun _ _ => exact ih hrun
    | delete hrun => exact ih hrun

end Runs

/-! ## Runs that are tried out -/

/-- The name of the first payment. -/
def PaymentId.first : PaymentId :=
  .make 0 0

namespace Trial

-- There are one, four or five callers. With these instances the numerals for them are closed terms.
scoped instance (priority := 2000) neZero_one : @NeZero Nat Zero.ofOfNat0 1 := ⟨Nat.one_ne_zero⟩

scoped instance (priority := 2000) neZero_four : @NeZero Nat Zero.ofOfNat0 4 := ⟨by decide⟩

scoped instance (priority := 2000) neZero_five : @NeZero Nat Zero.ofOfNat0 5 := ⟨by decide⟩

end Trial

end Paydesk
