import Paydesk.Proofs.Service.Account
import Paydesk.Proofs.Service.Refunds

/-!
# Calls take effect as a whole or not at all

A call of the service among any others that work on the same store, whatever they do: if it fails,
what is stored is what the others alone would have left, and nobody was told anything; if it
succeeds, one move of it has changed one payment, to the next version (`all_or_nothing`).

1. An answer is a success exactly if the save was accepted (`Course.Ends.cases`).
2. A call stores one payment at most (`Course.stored_of_trail`), so before and after its save it
   could as well not be there (`Floor.exists_lone_save`).
3. The version that the save gives follows from where the saved payment comes from
   (`Course.Saves.version`).
-/

namespace Paydesk

variable {ι γ π : Type}

/-- The answer of a call that has done what it was asked to. -/
def Answer.isSuccess : Answer → Bool
  | .payment result => result.isOk
  | .refund outcome => outcome.isSuccess

namespace Course

variable {desk : Desk γ π} {u : UseCase} {acts older : List (Act γ π)} {s t : Stage π}

theorem Fails.stored (h : Fails desk s) : s.stored = [] := by
  cases h <;> rfl

/-- A call succeeds after its save was accepted and everyone was told, and fails before. -/
theorem Ends.cases {answer : Answer} (h : Ends desk s answer) :
    (answer.isSuccess = true ∧ ∃ q receipt, s = .telling q receipt []) ∨
      answer.isSuccess = false ∧ Fails desk s := by
  cases h with
  | payment => exact .inl ⟨rfl, _, _, rfl⟩
  | refund => exact .inl ⟨rfl, _, _, rfl⟩
  | failure hfails hfailure =>
    refine .inr ⟨?_, hfails⟩
    cases hfailure <;> rfl

/-- Only who has stored something offers events. -/
theorem stored_of_mem_offer (h : Trail (Step desk) s acts t) {listener : π} {event : Event}
    {delivery : Delivery} (hmem : .offer listener event delivery ∈ acts) : t.stored ≠ [] := by
  refine h.of_mem (P := fun s => s.stored ≠ []) hmem (fun s t hstep => ?_)
    fun s b t hs hstep => hstep.stored_ne_nil hs
  cases hstep
  exact List.cons_ne_nil _ _

/-- The version that a call's save gets: the first one of a new payment, and the one after the
stored version of the payment that the call is about. -/
theorem Saves.version {q : Payment} {receipt : Option Receipt} {store : Store} {version : Nat}
    (h : Saves desk u older q receipt) (hnext : store.nextVersion q = .ok version)
    (hstored : ∀ id p, store.find? id = some p → 1 ≤ p.version)
    (hfound : ∀ id p, Act.find id (some p) ∈ older → 1 ≤ p.version) :
    (u.target = none → store.find? q.id = none ∧ version = 1) ∧
      ∀ id, u.target = some id → q.id = id ∧
        ∃ old, store.find? id = some old ∧ version = old.version + 1 := by
  -- a copy of a stored payment is saved over what is stored under its name
  have hcopy : ∀ {p : Payment} {c : Payment.Call} {plan : Option Payment.RefundPlan},
      Loaded u older p → c.Gives p q plan →
      (u.target = none → store.find? q.id = none ∧ version = 1) ∧
        ∀ id, u.target = some id → q.id = id ∧
          ∃ old, store.find? id = some old ∧ version = old.version + 1 := by
    intro p c plan hloaded hgives
    have hsame := hgives.sameIdentity
    have hone := hfound p.id p hloaded.found
    rw [hloaded.target]
    refine ⟨nofun, fun id hid => ?_⟩
    obtain rfl := Option.some.inj hid
    refine ⟨hsame.id, ?_⟩
    cases hold : store.find? p.id with
    | none =>
      rw [nextVersion_of_find?_none (hsame.id ▸ hold), if_neg (by rw [hsame.version]; omega)] at hnext
      cases hnext
    | some old =>
      rw [nextVersion_of_find?_some (hsame.id ▸ hold)] at hnext
      split at hnext
      · exact ⟨old, rfl, (Except.ok.inj hnext).symm⟩
      · cases hnext
  cases h with
  | @create tenant r draft now id hcall _ _ _ hmade =>
    subst hcall hmade
    refine ⟨fun _ => ?_, nofun⟩
    cases hold : store.find? id with
    | none =>
      rw [nextVersion_of_find?_none hold] at hnext
      exact ⟨hold, (Except.ok.inj hnext).symm⟩
    | some old =>
      have hone := hstored id old hold
      rw [nextVersion_of_find?_some hold, if_neg] at hnext
      · cases hnext
      · show old.version ≠ 0
        omega
  | change hloaded _ _ _ hgives => exact hcopy hloaded hgives
  | refund hcall hgranted _ hgives =>
    obtain ⟨reply, hordered, -⟩ := hgranted
    exact hcopy (hcall ▸ hordered.loaded) hgives

end Course

variable [DecidableEq ι]

theorem find?_insert_ne_iff {store : Store} {q : Payment} {version : Nat}
    (hnext : store.nextVersion q = .ok version) (id : PaymentId) :
    (store.insert (q.withVersion version)).find? id ≠ store.find? id ↔ id = q.id := by
  rw [Store.find?_insert]
  change (if q.id = id then _ else _) ≠ _ ↔ _
  constructor
  · intro hne
    by_contra hid
    rw [if_neg (Ne.symm hid)] at hne
    exact hne rfl
  · rintro rfl
    rw [if_pos rfl]
    cases hold : store.find? q.id with
    | none => simp
    | some old =>
      rw [nextVersion_of_find?_some hold] at hnext
      split at hnext
      · intro heq
        have hversion : version = old.version :=
          congrArg (fun p : Payment => p.version) (Option.some.inj heq)
        have hsucc := Except.ok.inj hnext
        omega
      · cases hnext

/-- **A call takes effect as a whole or not at all.** Whatever the others are and do, and wherever
their steps come between its own: a call that fails leaves what the moves of the others alone would
have left, and has offered no event. A call that succeeds has made one move by which the store of
the others came to differ in exactly one payment: a new one under version 1, or the one that the call
is about, under the version after that which the others had left. -/
theorem all_or_nothing (desk : Desk γ π) (u : UseCase) (others : ι → Workflow γ π Answer) (i : ι)
    (moves : List (Move ι)) (answer : Answer) :
    let start := Function.update others i (u.workflow desk)
    let floor := Floor.play start moves
    floor.running i = .done answer →
    (answer.isSuccess = false →
      floor.store = (Floor.play start (Move.without i moves)).store ∧
      ∀ listener event delivery, Entry.act i (.offer listener event delivery) ∉ floor.log) ∧
    (answer.isSuccess = true → ∃ first x rest p,
      moves = first ++ .step i x :: rest ∧
      let before := (Floor.play start (Move.without i first)).store
      let saved := Floor.play start (first ++ [.step i x])
      saved.store.find? p.id = some p ∧
      (∀ id, saved.store.find? id ≠ before.find? id ↔ id = p.id) ∧
      (u.target = none → before.find? p.id = none ∧ p.version = 1) ∧
      (∀ id, u.target = some id → p.id = id ∧
        ∃ old, before.find? id = some old ∧ p.version = old.version + 1) ∧
      floor.store = ((Move.without i rest).foldl Floor.move saved).store) := by
  intro start floor hdone
  have hstart : start i = u.workflow desk := Function.update_self i _ others
  obtain ⟨t, htrail, hend⟩ := exists_trail_play start (hstart ▸ Course.keeps desk u) moves
  change Trail _ _ (stepsOf i floor.log) t at htrail
  change (floor.running i).Keeps _ _ t at hend
  rw [hdone] at hend
  have hstored : storedBy i floor.log = t.stored := Course.stored_of_trail htrail
  rcases hend.cases with ⟨hsuccess, q, receipt, rfl⟩ | ⟨hfailure, hfails⟩
  · rw [hsuccess]
    refine ⟨nofun, fun _ => ?_⟩
    obtain ⟨p, version, rfl, hmem⟩ := Course.backed_of_trail htrail
    obtain ⟨newer, older, hsteps⟩ := List.append_of_mem hmem
    obtain ⟨receipt', hsaves, -⟩ := Course.saves_of_trail (hsteps ▸ htrail)
    obtain ⟨later, earlier, hlog, -, hearlier⟩ := exists_log_of_stepsOf hsteps
    obtain ⟨first, x, rest, hmoves, hfirst, hbefore, hnext, hsaved, hrest⟩ :=
      Floor.exists_lone_save hlog hstored
    have hversion := hsaves.version hnext (fun id q hq => one_le_version_of_play hq)
      fun id q hq => by
        rw [← hearlier, ← hfirst] at hq
        exact one_le_version_of_mem_find (mem_stepsOf.1 hq)
    refine ⟨first, x, rest, (p.withVersion version).commitEvents, hmoves, ?_, ?_, ?_, ?_, hrest⟩
    · rw [hsaved, Store.find?_insert]
      exact if_pos rfl
    · rw [hsaved, ← hbefore]
      exact find?_insert_ne_iff hnext
    · rw [← hbefore]
      exact hversion.1
    · rw [← hbefore]
      exact hversion.2
  · rw [hfailure]
    refine ⟨fun _ => ⟨?_, fun listener event delivery hmem => ?_⟩, nofun⟩
    · have hquiet : storedBy i floor.log = storedBy i (Floor.opened start).log := by
        rw [hstored, hfails.stored]
        rfl
      exact ((Floor.AgreeBut.refl i (Floor.opened start)).foldl moves hquiet).store
    · exact Course.stored_of_mem_offer htrail (mem_stepsOf.2 hmem) hfails.stored

/-- The refund that loses the race leaves no trace, though its order was approved. -/
theorem all_or_nothing_race :
    let start := fun i => (UseCase.racing i).workflow Desk.plain
    let moves := UseCase.race.map fun step => .step step.1 step.2
    (Floor.play start moves).store = (Floor.play start (Move.without 4 moves)).store := by
  intro start moves
  have hends : ((Floor.play start moves).running 4).endsIn (fun a => !a.isSuccess) = true := by
    decide +kernel
  obtain ⟨answer, hdone, hfailure⟩ := Workflow.eq_done_of_endsIn hends
  have hself : Function.update start 4 ((UseCase.racing 4).workflow Desk.plain) = start :=
    Function.update_eq_self 4 start
  have hatomic := all_or_nothing Desk.plain (UseCase.racing 4) start 4 moves answer
  rw [hself] at hatomic
  exact ((hatomic hdone).1 (by simpa using hfailure)).1

end Paydesk
