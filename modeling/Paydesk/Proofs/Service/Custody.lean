import Paydesk.Proofs.Payment.Books
import Paydesk.Proofs.Service.Account
import Paydesk.Proofs.Store.Writers

/-!
# Where stored payments come from

Calls of the service and writers that work on the store directly may share it (`Party`), and
payments may be taken out at any time. Whatever they save was made anew, or by calls on a payment
that they had found (`Party.custody`). So a property of new payments that every call keeps holds of
everything that is ever stored or found (`Custody.always`); in particular the books of every payment
that is found balance (`Custody.balanced`).
-/

namespace Paydesk

variable {ι γ π : Type}

/-! ## Descent -/

/-- The payment was made anew, or by calls on one that the same use case had found. -/
def Descends (i : ι) (earlier : List (Entry ι γ π)) (q : Payment) : Prop :=
  (∃ id now draft, q = Payment.create id now draft) ∨
    ∃ id p calls, Entry.act i (.find id (some p)) ∈ earlier ∧ q = p.afterAll calls

theorem mem_writes_of_find? {log : List (Entry ι γ π)} {id : PaymentId} {p : Payment}
    (h : (replay log).find? id = some p) : p ∈ writes log := by
  induction log with
  | nil => simp [replay] at h
  | cons e log ih =>
    rcases e.written_cases with hwritten | ⟨i, q, version, rfl⟩
    · rw [writes_cons_of_none hwritten]
      exact ih (find?_of_unwritten hwritten h)
    · rw [find?_replay_save] at h
      rw [writes_save]
      split at h
      · rw [Option.some.inj h]
        exact List.mem_cons_self
      · exact List.mem_cons_of_mem _ (ih h)

/-- A log in which everything that is saved descends from what was found or made anew. -/
inductive Custody : List (Entry ι γ π) → Prop
  | nil : Custody []
  | act {log : List (Entry ι γ π)} {i : ι} {a : Act γ π} (custody : Custody log)
      (fits : a.Fits (replay log))
      (descends : ∀ q version, a = .save q (.ok version) → Descends i log q) :
      Custody (.act i a :: log)
  | delete {log : List (Entry ι γ π)} {id : PaymentId} (custody : Custody log) :
      Custody (.delete id :: log)

theorem afterAll_of_after {P : Payment → Prop} (hafter : ∀ p c, P p → P (p.after c)) {p : Payment}
    (hp : P p) (calls : List Payment.Call) : P (p.afterAll calls) := by
  induction calls generalizing p with
  | nil => exact hp
  | cons c rest ih => exact ih (hafter p c hp)

/-- What new payments have, and every call and every save keeps, is a property of all that is ever
written or found. -/
theorem Custody.always {P : Payment → Prop}
    (hcreate : ∀ id now draft, P (Payment.create id now draft))
    (hafter : ∀ p c, P p → P (p.after c))
    (hsaved : ∀ p version, P p → P (p.withVersion version).commitEvents)
    {log : List (Entry ι γ π)} (h : Custody log) :
    (∀ p ∈ writes log, P p) ∧ ∀ i id p, Entry.act i (.find id (some p)) ∈ log → P p := by
  induction h with
  | nil =>
    exact ⟨fun p hp => absurd hp List.not_mem_nil, fun i id p hp => absurd hp List.not_mem_nil⟩
  | delete _ ih =>
    refine ⟨ih.1, fun i id p hmem => ?_⟩
    rcases List.mem_cons.1 hmem with heq | hold
    · cases heq
    · exact ih.2 i id p hold
  | @act log i a _ hfits hdescends ih =>
    obtain ⟨hwrites, hfound⟩ := ih
    constructor
    · rcases (Entry.act i a).written_cases with hwritten | ⟨j, q, version, heq⟩
      · rwa [writes_cons_of_none hwritten]
      · cases heq
        rw [writes_save]
        refine List.forall_mem_cons.2 ⟨hsaved q version ?_, hwrites⟩
        rcases hdescends q version rfl with ⟨id, now, draft, rfl⟩ | ⟨id, p, calls, hmem, rfl⟩
        · exact hcreate id now draft
        · exact afterAll_of_after hafter (hfound i id p hmem) calls
    · intro j id p hmem
      rcases List.mem_cons.1 hmem with heq | hold
      · cases heq
        exact hwrites p (mem_writes_of_find? hfits.symm)
      · exact hfound j id p hold

/-- What is taken from the log of a run answers to what was stored at that moment. -/
theorem custody_of_play {α : Type} [DecidableEq ι] {start : ι → Workflow γ π α}
    {moves : List (Move ι)}
    (h : ∀ later earlier i q version,
      (Floor.play start moves).log = later ++ .act i (.save q (.ok version)) :: earlier →
        Descends i earlier q) : Custody (Floor.play start moves).log := by
  have hfits : ∀ later earlier i a, (Floor.play start moves).log = later ++ .act i a :: earlier →
      a.Fits (replay earlier) := fun _ _ _ _ hlog => fits_of_log hlog
  generalize (Floor.play start moves).log = log at h hfits
  induction log with
  | nil => exact .nil
  | cons e log ih =>
    have hrest : Custody log := ih (fun l e' j q v hlog => h (e :: l) e' j q v (by rw [hlog]; rfl))
      fun l e' j a hlog => hfits (e :: l) e' j a (by rw [hlog]; rfl)
    cases e with
    | delete id => exact .delete hrest
    | act i a =>
      refine .act hrest (hfits [] log i a rfl) fun q version hsave => ?_
      exact h [] log i q version (by rw [hsave]; rfl)

/-! ## Parties -/

/-- Somebody who works on the store: a call of the service, or a writer. -/
inductive Party where
  | useCase (u : UseCase)
  | writer (w : Writer)

/-- What a party does. A call ends with its answer. -/
def Party.workflow (desk : Desk γ π) : Party → Workflow γ π (Option Answer)
  | .useCase u => (u.workflow desk).bind fun answer => .done (some answer)
  | .writer w => w.workflow.bind fun _ => .done none

theorem Party.keeps_useCase (desk : Desk γ π) (u : UseCase) :
    ((Party.useCase u).workflow desk).Keeps (Course.Step desk)
      (fun s result => ∃ answer, result = some answer ∧ Course.Ends desk s answer) (.idle u) :=
  keeps_bind (Course.keeps desk u) fun _ answer hend => ⟨answer, rfl, hend⟩

theorem Party.keeps_writer (desk : Desk γ π) (w : Writer) :
    ((Party.writer w).workflow desk).Keeps Writer.Step (fun _ _ => True) (.idle w) :=
  keeps_bind (Writer.keeps w) fun _ _ _ => trivial

theorem Course.Saves.descends [DecidableEq ι] {desk : Desk γ π} {u : UseCase} {q : Payment}
    {receipt : Option Course.Receipt} {i : ι} {earlier : List (Entry ι γ π)}
    (h : Course.Saves desk u (stepsOf i earlier) q receipt) : Descends i earlier q := by
  cases h with
  | create _ _ _ _ hmade => exact .inl ⟨_, _, _, hmade⟩
  | @change p now c hloaded _ _ _ hgives =>
    exact .inr ⟨p.id, p, [c], mem_stepsOf.1 hloaded.found, hgives.after_eq.symm⟩
  | @refund r p receipt now _ hgranted _ hgives =>
    obtain ⟨reply, hordered, -⟩ := hgranted
    exact .inr ⟨p.id, p, [_], mem_stepsOf.1 hordered.loaded.found, hgives.after_eq.symm⟩

theorem Course.descends {α : Type} [DecidableEq ι] {desk : Desk γ π} {u : UseCase}
    {post : Course.Stage π → α → Prop} (start : ι → Workflow γ π α) {i : ι}
    (h : (start i).Keeps (Course.Step desk) post (.idle u)) {moves : List (Move ι)}
    {later earlier : List (Entry ι γ π)} {q : Payment} {version : Except Conflict Nat}
    (hlog : (Floor.play start moves).log = later ++ .act i (.save q version) :: earlier) :
    Descends i earlier q := by
  obtain ⟨t, htrail, -⟩ := exists_trail_play start h moves
  rw [hlog, stepsOf_append, stepsOf_act_self] at htrail
  obtain ⟨receipt, hsaves, -⟩ := Course.saves_of_trail htrail
  exact hsaves.descends

theorem Writer.descends {α : Type} [DecidableEq ι] {w : Writer} {post : Writer.Stage → α → Prop}
    (start : ι → Workflow γ π α) {i : ι} (h : (start i).Keeps Writer.Step post (.idle w))
    {moves : List (Move ι)} {later earlier : List (Entry ι γ π)} {q : Payment}
    {version : Except Conflict Nat}
    (hlog : (Floor.play start moves).log = later ++ .act i (.save q version) :: earlier) :
    Descends i earlier q := by
  obtain ⟨t, htrail, -⟩ := exists_trail_play start h moves
  rw [hlog, stepsOf_append, stepsOf_act_self] at htrail
  obtain ⟨s, s', holder, hsave, -⟩ := htrail.of_append_cons
  cases hsave with
  | create => exact .inl ⟨_, _, _, rfl⟩
  | @change calls p _ =>
    -- only the load leads to the stage in which a copy is held
    have hload : ∀ (s : Writer.Stage) (a : Act γ π) (t : Writer.Stage), Writer.Step s a t →
        t = .copy calls p → s = .copy calls p ∨ a = .find p.id (some p) := by
      intro s a t hstep ht
      subst ht
      cases hstep
      exact .inr rfl
    obtain ⟨a, hmem, rfl⟩ := holder.exists_mem nofun hload rfl
    exact .inr ⟨p.id, p, calls p, mem_stepsOf.1 hmem, rfl⟩

/-- Parties save what descends from what they have found. -/
theorem Party.custody [DecidableEq ι] (desk : Desk γ π) (parties : ι → Party)
    (moves : List (Move ι)) : Custody (Floor.play (fun i => (parties i).workflow desk) moves).log := by
  refine custody_of_play fun later earlier i q version hlog => ?_
  cases hparty : parties i with
  | useCase u =>
    have hkeeps := Party.keeps_useCase desk u
    rw [← hparty] at hkeeps
    exact Course.descends (fun i => (parties i).workflow desk) hkeeps hlog
  | writer w =>
    have hkeeps := Party.keeps_writer desk w
    rw [← hparty] at hkeeps
    exact Writer.descends (fun i => (parties i).workflow desk) hkeeps hlog

theorem UseCase.custody [DecidableEq ι] (desk : Desk γ π) (useCases : ι → UseCase)
    (moves : List (Move ι)) : Custody (Floor.play (fun i => (useCases i).workflow desk) moves).log :=
  custody_of_play fun _ _ i _ _ hlog =>
    Course.descends (fun i => (useCases i).workflow desk) (Course.keeps desk (useCases i)) hlog

/-! ## The books of stored payments -/

/-- The books of the payment balance with some list of refunds. -/
def Payment.IsBalanced (p : Payment) : Prop :=
  ∃ refunds, (Payment.Books.mk p refunds).Balanced

theorem Payment.IsBalanced.after {p : Payment} (h : p.IsBalanced) (c : Payment.Call) :
    (p.after c).IsBalanced := by
  obtain ⟨refunds, hbalanced⟩ := h
  have hcall := hbalanced.call c
  rw [← Payment.Books.call_payment ⟨p, refunds⟩ c]
  exact ⟨_, hcall⟩

theorem Payment.IsBalanced.saved {p : Payment} (h : p.IsBalanced) (version : Nat) :
    (p.withVersion version).commitEvents.IsBalanced := by
  obtain ⟨refunds, hbalanced⟩ := h
  exact ⟨refunds, hbalanced.keep rfl rfl rfl⟩

theorem Payment.IsBalanced.lt_of_refundable {p : Payment} (h : p.IsBalanced)
    (hstatus : p.status = .completed ∨ p.status = .partiallyRefunded) :
    p.refundedCents < p.amount.cents := by
  obtain ⟨refunds, hbalanced⟩ := h
  rcases hstatus with hcompleted | hpartially
  · obtain ⟨hnone, -⟩ := hbalanced.unrefunded (by simp [hcompleted]) (by simp [hcompleted])
    rw [Payment.refundedCents_of_none hnone]
    exact p.amount.cents_pos
  · exact (hbalanced.partially hpartially).2.1

/-- The books of everything that is found in the store balance. -/
theorem Custody.balanced {log : List (Entry ι γ π)} (h : Custody log) {i : ι} {id : PaymentId}
    {p : Payment} (hfound : Entry.act i (.find id (some p)) ∈ log) : p.IsBalanced :=
  (h.always (P := Payment.IsBalanced) (fun _ _ _ => ⟨[], .opened rfl rfl⟩)
    (fun _ c hp => hp.after c) fun _ version hp => hp.saved version).2 i id p hfound

end Paydesk
