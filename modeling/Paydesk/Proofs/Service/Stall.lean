import Paydesk.Proofs.Service.Publication

/-!
# Listeners that never answer

What a listener that never answers does to the others: `told_until_stalled`. A call waits for all
listeners of an event together, so the first one that never answers uses up the time of those after
it, and they are not offered the event at all, whether or not they would answer. Those before it are
not harmed. Everybody who answers is told exactly if nobody who answers stands after one who never
does.
-/

namespace Paydesk

variable {ι γ π : Type} {behaves : π → Event → Delivery} {event : Event}

/-- The listener at a place is told exactly if all before it answer. -/
theorem getElem?_audience_eq_some {listeners : List π} {n : Nat} {listener : π} :
    (audience behaves event listeners)[n]? = some listener ↔
      listeners[n]? = some listener ∧
        ∀ m < n, ∀ earlier, listeners[m]? = some earlier → behaves earlier event ≠ .pending := by
  induction listeners generalizing n with
  | nil => simp [audience]
  | cons first rest ih =>
    cases n with
    | zero => simp [audience]
    | succ n =>
      rw [audience, List.getElem?_cons_succ, List.getElem?_cons_succ]
      cases hfirst : behaves first event with
      | pending =>
        constructor
        · intro h
          simp at h
        · rintro ⟨-, hall⟩
          exact absurd hfirst (hall 0 n.succ_pos first rfl)
      | _ =>
        rw [ih]
        refine and_congr_right fun _ => ⟨fun hall m hm earlier hearlier => ?_, fun hall m hm => ?_⟩
        · cases m with
          | zero =>
            obtain rfl : first = earlier := Option.some.inj hearlier
            simp [hfirst]
          | succ m => exact hall m (by omega) earlier hearlier
        · exact hall (m + 1) (by omega)

theorem all_told_iff {listeners : List π} :
    (∀ (n : Nat) listener, listeners[n]? = some listener → behaves listener event ≠ .pending →
      (audience behaves event listeners)[n]? = some listener) ↔
    listeners.Pairwise fun earlier later =>
      behaves earlier event = .pending → behaves later event = .pending := by
  rw [List.pairwise_iff_getElem]
  constructor
  · intro htold m n hm hn hlt hstalled
    by_contra hanswers
    have hlast := htold n _ (List.getElem?_eq_getElem hn) hanswers
    exact (getElem?_audience_eq_some.1 hlast).2 m hlt _ (List.getElem?_eq_getElem hm) hstalled
  · intro horder n listener hlistener hanswers
    refine getElem?_audience_eq_some.2 ⟨hlistener, fun m hm earlier hearlier hstalled => ?_⟩
    obtain ⟨hn, rfl⟩ := List.getElem?_eq_some_iff.1 hlistener
    obtain ⟨hm', rfl⟩ := List.getElem?_eq_some_iff.1 hearlier
    exact hanswers (horder m n hm' hn hm hstalled)

/-- **A listener that never answers keeps an event from those after it, and from nobody else.** Any
calls of the service in any order of their steps. When a call is done whose save was accepted, an
event of that save was offered to the listener at a place in the list exactly if all listeners
before it answer. So everybody who answers was told exactly if nobody who answers stands after one
who never does. -/
theorem told_until_stalled [DecidableEq ι] (desk : Desk γ π) (useCases : ι → UseCase)
    (steps : List (ι × Outside)) (behaves : π → Event → Delivery) :
    let floor := desk.floor useCases steps
    AnsweredBy behaves floor.log → ∀ i q version,
      Entry.act i (.save q (.ok version)) ∈ floor.log → (floor.running i).isDone = true →
      ∀ event ∈ q.events,
        (∀ (n : Nat) listener, (toldOf event floor.log)[n]? = some listener ↔
          desk.listeners[n]? = some listener ∧ ∀ m < n, ∀ earlier,
            desk.listeners[m]? = some earlier → behaves earlier event ≠ .pending) ∧
        ((∀ (n : Nat) listener, desk.listeners[n]? = some listener → behaves listener event ≠ .pending →
            (toldOf event floor.log)[n]? = some listener) ↔
          desk.listeners.Pairwise fun earlier later =>
            behaves earlier event = .pending → behaves later event = .pending) := by
  intro floor hanswered i q version hsaved hdone event hevent
  obtain ⟨stage, hrun, hkeeps, hkept⟩ := desk.exists_run_floor useCases steps
  obtain ⟨answer, hanswer⟩ := Workflow.eq_done_of_isDone hdone
  have hoffered := (offeredBy_of_save hrun hanswered hsaved).2 answer ((hkeeps i).of_done hanswer)
  rw [toldOf_of_save hrun hkept hsaved hoffered hevent]
  exact ⟨fun n listener => getElem?_audience_eq_some, all_told_iff⟩

/-! ### The first listener never answers -/

def Desk.heardByTwo : Desk Unit Bool where
  registry := Registry.empty
  listeners := [false, true]
  publishTimeoutMillis := 20

/-- The first listener never answers, and the second one accepts every event. -/
def Delivery.firstStalls (listener : Bool) (_ : Event) : Delivery :=
  if listener then .accepted else .pending

open scoped Trial

/-- The payment is made, and the first listener is told. -/
def UseCase.stalled : List (Fin 1 × Outside) :=
  [.accepted, .accepted, .accepted, .pending, .accepted, .accepted].map fun delivery =>
    (0, ⟨default, .first, .error .timedOut, delivery⟩)

/-- The call is done, and the second listener, which answers, was not offered the event. -/
theorem second_not_told :
    let floor := Desk.heardByTwo.floor UseCase.announcing UseCase.stalled
    (floor.running 0).isDone = true ∧ (recorded floor.log).length = 1 ∧
      ∀ r ∈ recorded floor.log, Delivery.firstStalls true r.2 = .accepted ∧
        true ∈ Desk.heardByTwo.listeners ∧ toldOf r.2 floor.log = [false] := by
  decide +kernel

/-- What the call has recorded was offered to the first listener and to nobody after it. -/
theorem told_until_stalled_first :
    let floor := Desk.heardByTwo.floor UseCase.announcing UseCase.stalled
    AnsweredBy Delivery.firstStalls floor.log ∧ (floor.running 0).isDone = true ∧
      ∃ event, (0, event) ∈ recorded floor.log ∧ (toldOf event floor.log)[0]? = some false ∧
        (toldOf event floor.log)[1]? ≠ some true := by
  have hanswered : AnsweredBy Delivery.firstStalls
      (Desk.heardByTwo.floor UseCase.announcing UseCase.stalled).log := by decide +kernel
  have hdone : ((Desk.heardByTwo.floor UseCase.announcing UseCase.stalled).running 0).isDone =
      true := by decide +kernel
  have hrecorded :
      (recorded (Desk.heardByTwo.floor UseCase.announcing UseCase.stalled).log).length = 1 := by
    decide +kernel
  have htold := told_until_stalled Desk.heardByTwo UseCase.announcing UseCase.stalled
    Delivery.firstStalls
  generalize Desk.heardByTwo.floor UseCase.announcing UseCase.stalled = floor
    at hanswered hdone hrecorded htold ⊢
  obtain ⟨⟨i, event⟩, hone⟩ := List.length_eq_one_iff.1 hrecorded
  obtain rfl : i = 0 := Subsingleton.elim i 0
  have hmem : (0, event) ∈ recorded floor.log := by
    rw [hone]
    exact List.mem_cons_self
  obtain ⟨q, version, hsaved, hevent⟩ := mem_recorded.1 hmem
  obtain ⟨hplaces, -⟩ := htold hanswered 0 q version hsaved hdone event hevent
  refine ⟨hanswered, hdone, event, hmem, (hplaces 0 false).2 ⟨rfl, nofun⟩, fun hsecond => ?_⟩
  exact ((hplaces 1 true).1 hsecond).2 0 Nat.one_pos false rfl rfl

end Paydesk
