import Paydesk.Proofs.Service.Atomic

/-!
# Calls and queries

Everything that the service can be asked: the calls that change a payment, and the queries, which
only read. Whoever only reads or fails has stored nothing, and so leaves the store to the others
(`Errand.store_eq`).
-/

namespace Paydesk

variable {ι γ π α β δ : Type}

theorem Workflow.bind_assoc (w : Workflow γ π α) (f : α → Workflow γ π β) (g : β → Workflow γ π δ) :
    (w.bind f).bind g = w.bind fun a => (f a).bind g := by
  induction w with
  | done a => rfl
  | clock next ih => exact congrArg Workflow.clock (funext ih)
  | freshId next ih => exact congrArg Workflow.freshId (funext ih)
  | find id next ih => exact congrArg (Workflow.find id) (funext ih)
  | list query next ih => exact congrArg (Workflow.list query) (funext ih)
  | save p next ih => exact congrArg (Workflow.save p) (funext ih)
  | pay gateway order next ih => exact congrArg (Workflow.pay gateway order) (funext ih)
  | offer listener event next ih => exact congrArg (Workflow.offer listener event) (funext ih)
  | warn notice next ih => exact congrArg (Workflow.warn notice) ih

/-- The payment that a step stores, pays back or tells of. -/
def Act.about : Act γ π → Option PaymentId
  | .save q _ => some q.id
  | .pay _ order _ => some order.payment
  | .offer _ event _ => some event.payment
  | _ => none

theorem Act.stored_eq_none_of_about {a : Act γ π} (h : a.about = none) : a.stored = none := by
  cases a with
  | save q version => cases h
  | _ => rfl

/-- Something that the service is asked. -/
inductive Errand where
  | command (call : UseCase)
  | get (tenant : String) (id : PaymentId)
  | list (tenant : String) (request : ListRequest)

inductive Reply where
  | answer (result : Answer)
  | payments (result : Except ServiceError (List Payment))

/-- The reply that it has been done. -/
def Reply.isSuccess : Reply → Bool
  | .answer result => result.isSuccess
  | .payments result => result.isOk

namespace Errand

def tenant : Errand → String
  | .command call => call.tenant
  | .get tenant _ => tenant
  | .list tenant _ => tenant

/-- Nothing is to be changed. -/
def isQuery : Errand → Bool
  | .command _ => false
  | _ => true

theorem eq_command_of_isQuery {e : Errand} (h : e.isQuery = false) : ∃ call, e = .command call := by
  cases e with
  | command call => exact ⟨call, rfl⟩
  | get tenant id => cases h
  | list tenant r => cases h

/-- The use case that replies. -/
def workflow (desk : Desk γ π) : Errand → Workflow γ π Reply
  | .command call => (call.workflow desk).bind fun answer => .done (.answer answer)
  | .get tenant id => (Desk.get tenant id).run.bind fun x => .done (.answer (.payment x))
  | .list tenant r => (Desk.list tenant r).run.bind fun x => .done (.payments x)

/-- Nothing is done to any payment. -/
def Reading : Protocol γ π Unit := fun _ a _ =>
  a.about = none

abbrev Reads (x : Task γ π α) : Prop :=
  x.Keeps Reading (fun _ _ => True) (fun _ _ => True) ()

theorem reads_get (tenant : String) (id : PaymentId) :
    Reads (Desk.get tenant id : Task γ π Payment) := by
  refine Task.keeps_bind (Task.keeps_find fun found _ => ⟨(), rfl, ?_⟩)
  cases Option.filter (fun p => p.tenant == tenant) found with
  | none => exact Task.keeps_throw trivial
  | some p => exact Task.keeps_pure trivial

theorem reads_list (tenant : String) (r : ListRequest) :
    Reads (Desk.list tenant r : Task γ π (List Payment)) := by
  refine Task.keeps_bind (Task.keeps_ofExcept (fun status _ => ?_) fun _ _ => trivial)
  refine Task.keeps_bind (Task.keeps_ofExcept (fun provider _ => ?_) fun _ _ => trivial)
  exact Task.keeps_bind ⟨fun found => ⟨(), rfl, Task.keeps_pure trivial⟩⟩

/-- A query only reads. -/
theorem keeps_reading (desk : Desk γ π) {e : Errand} (h : e.isQuery = true) :
    (e.workflow desk).Keeps Reading (fun _ _ => True) () := by
  cases e with
  | command call => cases h
  | get tenant id => exact keeps_bind (reads_get tenant id).run fun _ _ _ => trivial
  | list tenant r => exact keeps_bind (reads_list tenant r).run fun _ _ _ => trivial

end Errand

section Runs

variable [DecidableEq ι]

/-- A call among others follows its course, whatever is made of its answer. -/
theorem Errand.exists_trail (desk : Desk γ π) (call : UseCase) (conclude : Reply → α)
    {start : ι → Workflow γ π α} {i : ι}
    (hstart : start i =
      ((command call).workflow desk).bind fun reply => .done (conclude reply))
    (moves : List (Move ι)) :
    ∃ t, Trail (Course.Step desk) (.idle call) (stepsOf i (Floor.play start moves).log) t ∧
      ∀ a, (Floor.play start moves).running i = .done a →
        ∃ answer, Course.Ends desk t answer ∧ a = conclude (.answer answer) := by
  have hkeeps : (start i).Keeps (Course.Step desk) (fun s a => ∃ answer,
      Course.Ends desk s answer ∧ a = conclude (.answer answer)) (.idle call) :=
    (hstart.trans (Workflow.bind_assoc _ _ _)) ▸
      keeps_bind (Course.keeps desk call) fun _ answer hend => ⟨answer, hend, rfl⟩
  obtain ⟨t, htrail, hend⟩ := exists_trail_play start hkeeps moves
  exact ⟨t, htrail, fun a hdone => hend.of_done hdone⟩

end Runs

end Paydesk
