import Paydesk.Proofs.Payment.Call
import Paydesk.Proofs.Store.Versions

/-!
# No lost update

Writers make one payment and save it, or load one, do any calls on their copy and save it. However
the steps of any number of writers are interleaved, with payments taken out at any time, no accepted
save is overwritten by a writer who has not seen it: `no_lost_update`.

1. A writer is a use case that holds at most one payment (`Writer.keeps`, `Writer.Stage.hold`), so
   what `Orderly` says of versions holds of every run of writers.
2. What a writer saves is what it was asked to save: its new payment, or its calls on the copy that
   it has loaded (`wrote_of_save`).
3. Nothing follows the save, so the payment that the save gave back is the one that the writer ends
   with (`over_of_mem_save`, `done_of_over`).
-/

namespace Paydesk

variable {ι γ π : Type}

/-! ## Writers -/

/-- A caller of the store that saves once. -/
inductive Writer where
  /-- Makes a payment and saves it. -/
  | create (draft : Payment.Draft)
  /-- Loads a payment, does calls on it that may depend on what was loaded, and saves it. -/
  | change (id : PaymentId) (calls : Payment → List Payment.Call)

namespace Writer

/-- The payment in the hands of a caller after its save. -/
def inHands (q : Payment) : Except Conflict Nat → Payment
  | .ok version => q.withVersion version
  | .error _ => q

/-- Saves a payment; the result is what the caller has in its hands then. -/
def attempt (q : Payment) : Workflow γ π (Option Payment) :=
  .save q fun saved =>
    match saved with
    | .ok stored => .done (some stored)
    | .error _ => .done (some q)

/-- What a writer does. It ends with the payment in its hands, if it has one. -/
def workflow : Writer → Workflow γ π (Option Payment)
  | .create draft => .clock fun now => .freshId fun id => attempt (Payment.create id now draft)
  | .change id calls =>
    .find id fun found =>
      match found with
      | .ok (some p) => attempt (p.afterAll (calls p))
      | _ => .done none

inductive Stage where
  | idle (w : Writer)
  | timed (draft : Payment.Draft) (now : Instant)
  | named (draft : Payment.Draft) (now : Instant) (id : PaymentId)
  | copy (calls : Payment → List Payment.Call) (p : Payment)
  | over (w : Writer) (hands : Option Payment)

inductive Step : Protocol γ π Stage
  | clock {draft : Payment.Draft} {now : Instant} :
      Step (.idle (.create draft)) (.clock now) (.timed draft now)
  | draw {draft : Payment.Draft} {now : Instant} {id : PaymentId} :
      Step (.timed draft now) (.freshId id) (.named draft now id)
  | create {draft : Payment.Draft} {now : Instant} {id : PaymentId}
      {version : Except Conflict Nat} :
      Step (.named draft now id) (.save (Payment.create id now draft) version)
        (.over (.create draft) (inHands (Payment.create id now draft) version))
  | miss {id : PaymentId} {calls : Payment → List Payment.Call} :
      Step (.idle (.change id calls)) (.find id none) (.over (.change id calls) none)
  | load {calls : Payment → List Payment.Call} {p : Payment} :
      Step (.idle (.change p.id calls)) (.find p.id (some p)) (.copy calls p)
  | change {calls : Payment → List Payment.Call} {p : Payment} {version : Except Conflict Nat} :
      Step (.copy calls p) (.save (p.afterAll (calls p)) version)
        (.over (.change p.id calls) (inHands (p.afterAll (calls p)) version))

/-- The writer is done and has this in its hands. -/
def Stage.Result : Stage → Option Payment → Prop
  | .over _ hands, result => hands = result
  | _, _ => False

theorem keeps_attempt {q : Payment} {s : Stage} {w : Writer}
    (h : ∀ version, Step (γ := γ) (π := π) s (.save q version) (.over w (inHands q version))) :
    (attempt q : Workflow γ π (Option Payment)).Keeps Step Stage.Result s :=
  ⟨fun version => ⟨_, h (.ok version), rfl⟩, fun why => ⟨_, h (.error why), rfl⟩⟩

theorem keeps (w : Writer) :
    (w.workflow : Workflow γ π (Option Payment)).Keeps Step Stage.Result (.idle w) := by
  cases w with
  | create draft =>
    intro now
    refine ⟨_, .clock, fun id => ⟨_, .draw, ?_⟩⟩
    exact keeps_attempt fun _ => .create
  | change id calls =>
    intro found lawful
    cases found with
    | none => exact ⟨_, .miss, rfl⟩
    | some p =>
      obtain rfl := (lawful p rfl).1
      exact ⟨_, .load, keeps_attempt fun _ => .change⟩

/-! ### A writer as a use case that holds one payment -/

def Stage.hold : Stage → Hold
  | .idle _ => .nothing
  | .timed _ _ => .nothing
  | .named _ _ id => .named id
  | .copy _ p => .copy p
  | .over _ _ => .spent

theorem Step.hold {s t : Stage} {a : Act γ π} (h : Step s a t) : Hold.Step s.hold a t.hold := by
  cases h with
  | clock => exact .clock
  | draw => exact .draw
  | create => exact .create rfl rfl
  | miss => exact .miss
  | load => exact .load
  | @change calls p _ =>
    have hsame := p.afterAll_sameIdentity (calls p)
    exact .change hsame.id hsame.version

/-- The writer that has come to a stage. -/
def Stage.writer : Stage → Writer
  | .idle w => w
  | .timed draft _ => .create draft
  | .named draft _ _ => .create draft
  | .copy calls p => .change p.id calls
  | .over w _ => w

theorem Step.writer {s t : Stage} {a : Act γ π} (h : Step s a t) : t.writer = s.writer := by
  cases h <;> rfl

end Writer

/-! ## Runs of writers -/

section Runs

variable [DecidableEq ι] {writers : ι → Writer} {log : List (Entry ι γ π)}
  {stage : ι → Writer.Stage}

theorem hold_run (h : Run Writer.Step (fun i => .idle (writers i)) log stage) :
    Run Hold.Step (fun _ => .nothing) log (fun i => (stage i).hold) :=
  h.map fun _ _ _ hstep => hstep.hold

/-- What a writer has written by an accepted save, over what was stored then: its new payment where
nothing ever was, or its calls on the stored payment. -/
def Writer.Wrote (w : Writer) (earlier : List (Entry ι γ π)) (q : Payment) (version : Nat) : Prop :=
  match w with
  | .create draft =>
    ∃ id now, q = Payment.create id now draft ∧ writesOf id earlier = [] ∧ version = 1
  | .change id calls =>
    ∃ p, (replay earlier).find? id = some p ∧ (writesOf id earlier).head? = some p ∧
      q = p.afterAll (calls p) ∧ version = p.version + 1

theorem wrote_of_save {earlier : List (Entry ι γ π)} {i : ι} {q : Payment} {version : Nat}
    (h : Run Writer.Step (fun i => .idle (writers i)) (.act i (.save q (.ok version)) :: earlier)
      stage) (hu : Unreborn earlier) : (writers i).Wrote earlier q version := by
  cases h with
  | @act _ before _ _ _ hrun hfits hpermitted =>
    -- the version was given by what was stored, and by then the copy was still what was stored
    have horderly := orderly_of_run (hold_run hrun) hu
    have hwriter : (before i).writer = writers i :=
      hrun.always (P := fun i s => s.writer = writers i) (fun _ => rfl)
        (fun _ _ _ _ hs hstep => hstep.writer.trans hs) i
    rw [← hwriter]
    generalize hbefore : before i = s at hpermitted
    cases hpermitted with
    | @create draft now id _ =>
      have hhold : (before i).hold = .named id := by rw [hbefore]; rfl
      obtain ⟨hnil, hone⟩ := horderly.version_of_named hu hhold rfl hfits.symm
      exact ⟨id, now, rfl, hnil, hone⟩
    | @change calls p _ =>
      have hhold : (before i).hold = .copy p := by rw [hbefore]; rfl
      have hsame := p.afterAll_sameIdentity (calls p)
      obtain ⟨hfind, hnext⟩ := horderly.version_of_copy hhold hsame.id hsame.version hfits.symm
      exact ⟨p, hfind, horderly.current _ p hfind, rfl, hnext⟩

theorem over_of_mem_save (h : Run Writer.Step (fun i => .idle (writers i)) log stage) {i : ι}
    {q : Payment} {version : Except Conflict Nat} (hmem : Entry.act i (.save q version) ∈ log) :
    ∃ w, stage i = .over w (some (Writer.inHands q version)) := by
  refine h.of_mem (P := fun s => ∃ w, s = .over w (some (Writer.inHands q version)))
    (fun s t hstep => ?_) (fun s b t hs hstep => ?_) hmem
  · cases hstep <;> exact ⟨_, rfl⟩
  · obtain ⟨w, rfl⟩ := hs
    cases hstep

theorem done_of_over {s : Writer.Stage} {w : Workflow γ π (Option Payment)} {writer : Writer}
    {hands : Option Payment} (h : w.Keeps Writer.Step Writer.Stage.Result s)
    (hs : s = .over writer hands) : w = .done hands := by
  subst hs
  obtain ⟨result, hw, hresult⟩ := h.eq_done fun a t hstep => by cases hstep
  rw [hw, show hands = result from hresult]

/-- **No lost update.** Any number of writers over one store, in any order of their steps, with
payments taken out at any time; the names that were drawn are distinct. A save of a loaded copy is
accepted exactly if since then no other save of that payment was accepted and it was not taken out.
No payment is stored twice under one version: its stored states have the versions 1, 2, 3, …, never
more than there were accepted saves, and each is what its writer made of the state that was stored
before. A refused save changes neither the store nor the payment in the hands of its writer. -/
theorem no_lost_update (writers : ι → Writer) (moves : List (Move ι)) :
    let floor := Floor.play (fun i => ((writers i).workflow : Workflow γ π (Option Payment))) moves
    (drawn floor.log).Nodup →
    floor.store = replay floor.log ∧
    (∀ later between earlier i id p q answer,
      floor.log = later ++ .act i (.save q answer) ::
        (between ++ .act i (.find id (some p)) :: earlier) →
      ((∃ version, answer = .ok version) ↔ ∀ e ∈ between, ¬ e.Touches id)) ∧
    ((writes floor.log).map fun p => (p.id, p.version)).Nodup ∧
    (∀ id, (writesOf id floor.log).reverse.map (fun p => p.version) =
      List.range' 1 (writesOf id floor.log).length) ∧
    (∀ p ∈ writes floor.log, p.version ≤ (writes floor.log).length) ∧
    (∀ later earlier i q version,
      floor.log = later ++ .act i (.save q (.ok version)) :: earlier →
      (writers i).Wrote earlier q version ∧
        floor.running i = .done (some (q.withVersion version))) ∧
    (∀ later earlier i q why,
      floor.log = later ++ .act i (.save q (.error why)) :: earlier →
      replay (.act i (.save q (.error why)) :: earlier) = replay earlier ∧
        floor.running i = .done (some q)) := by
  intro floor hnodup
  obtain ⟨stage, hrun, hkeeps⟩ := exists_run_play (fun i => (writers i).keeps) moves
  change Run _ _ floor.log stage at hrun
  change ∀ i, (floor.running i).Keeps _ _ _ at hkeeps
  have hu : Unreborn floor.log := .inl hnodup
  have horderly := orderly_of_run (hold_run hrun) hu
  have hhands : ∀ {i q version later earlier},
      floor.log = later ++ .act i (.save q version) :: earlier →
      floor.running i = .done (some (Writer.inHands q version)) := by
    intro i q version later earlier hlog
    have hmem : Entry.act i (.save q version) ∈ floor.log := by
      rw [hlog]
      exact List.mem_append_right later List.mem_cons_self
    obtain ⟨w, hover⟩ := over_of_mem_save hrun hmem
    exact done_of_over (hkeeps i) hover
  refine ⟨store_play _ moves, ?_, ?_, ?_, ?_, ?_, ?_⟩
  · intro later between earlier i id p q answer hlog
    rw [hlog] at hrun hu
    obtain ⟨_, hsave⟩ := (hold_run hrun).of_append
    exact save_isOk_iff hsave hu.of_append.of_cons
  · exact nodup_of_filter fun id => (horderly.numbered id).nodup
  · exact fun id => (horderly.numbered id).versions
  · intro p hp
    have hown : p ∈ writesOf p.id floor.log := List.mem_filter.2 ⟨hp, decide_eq_true rfl⟩
    exact Nat.le_trans ((horderly.numbered p.id).bounds hown).2 (List.length_filter_le _ _)
  · intro later earlier i q version hlog
    refine ⟨?_, hhands hlog⟩
    rw [hlog] at hrun hu
    obtain ⟨_, hsave⟩ := hrun.of_append
    exact wrote_of_save hsave hu.of_append.of_cons
  · exact fun later earlier i q why hlog => ⟨rfl, hhands hlog⟩

end Runs

/-! ### A race of two writers -/

/-- A draft over one hundred dollars. -/
def Payment.Draft.plain : Payment.Draft where
  tenant := "shop"
  provider := .paypal
  amount := ⟨⟨100, 0, by decide, Nat.zero_le _⟩, by decide, by decide, by decide⟩
  currency := .usd
  order := "first"
  reference := none
  metadata := none

/-- One writer makes a payment, one starts it and one cancels it. -/
def Writer.racing : Fin 3 → Writer
  | 0 => .create .plain
  | 1 => .change .first fun _ => [.startProcessing default]
  | 2 => .change .first fun _ => [.cancel default none]

/-- Both load the payment before one of them saves. -/
def Writer.race : List (Move (Fin 3)) :=
  [0, 0, 0, 1, 2, 1, 2].map fun i => .step i ⟨default, .first, .error .timedOut, .accepted⟩

/-- In the race the second save is refused. -/
theorem no_lost_update_race :
    let floor := Floor.play
      (fun i => ((Writer.racing i).workflow : Workflow Empty Empty (Option Payment))) Writer.race
    (drawn floor.log).Nodup ∧
    (writesOf .first floor.log).reverse.map (fun p => p.version) = [1, 2] ∧
    ∃ q why, floor.log.head? = some (.act 2 (.save q (.error why))) ∧
      floor.running 2 = .done (some q) := by
  intro floor
  have hnodup : (drawn floor.log).Nodup := by decide
  obtain ⟨-, -, -, hversions, -, -, hrefused⟩ := no_lost_update Writer.racing Writer.race hnodup
  exact ⟨hnodup, hversions .first, _, _, rfl, (hrefused [] _ 2 _ _ rfl).2⟩

end Paydesk
