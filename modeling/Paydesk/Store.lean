import Paydesk.Payment.Basic

/-!
# The store

Payments by their names, in the order of the names. A write is accepted only over the version that
the writer has seen, so of two writers that loaded one version at most one succeeds; each accepted
write raises the version. Stored payments have no waiting events.
-/

namespace Paydesk

/-- The payments stand in the order of their names, and no name occurs twice. -/
def IsOrdered (payments : List Payment) : Prop :=
  payments.Pairwise fun p q => p.id.number < q.id.number

/-- The stored payments, in the order of their names. -/
structure Store where
  payments : List Payment
  ordered : IsOrdered payments

namespace Store

/-! ## Writing one payment -/

/-- Puts a payment in its place, over one of the same name. -/
def place (p : Payment) : List Payment → List Payment
  | [] => [p]
  | q :: rest =>
    if q.id = p.id then p :: rest
    else if p.id.number < q.id.number then p :: q :: rest
    else q :: place p rest

theorem eq_or_mem_of_mem_place {p q : Payment} {payments : List Payment}
    (h : q ∈ place p payments) : q = p ∨ q ∈ payments := by
  induction payments with
  | nil => exact Or.inl (List.mem_singleton.1 h)
  | cons r rest ih =>
    simp only [place] at h
    split at h
    · rcases List.mem_cons.1 h with h | h
      · exact Or.inl h
      · exact Or.inr (List.mem_cons_of_mem r h)
    · split at h
      · exact List.mem_cons.1 h
      · rcases List.mem_cons.1 h with h | h
        · exact Or.inr (h ▸ List.mem_cons_self)
        · exact (ih h).imp_right (List.mem_cons_of_mem r)

theorem isOrdered_place {payments : List Payment} (p : Payment) (h : IsOrdered payments) :
    IsOrdered (place p payments) := by
  induction payments with
  | nil => exact List.pairwise_singleton _ p
  | cons q rest ih =>
    obtain ⟨first, others⟩ := List.pairwise_cons.1 h
    simp only [place]
    split
    · rename_i same
      exact List.pairwise_cons.2 ⟨fun r hr => same ▸ first r hr, others⟩
    · rename_i different
      split
      · rename_i lt
        refine List.pairwise_cons.2 ⟨fun r hr => ?_, h⟩
        rcases List.mem_cons.1 hr with rfl | hr
        · exact lt
        · exact Nat.lt_trans lt (first r hr)
      · rename_i notLt
        have lt : q.id.number < p.id.number :=
          Nat.lt_of_le_of_ne (Nat.le_of_not_lt notLt) fun e =>
            different (PaymentId.eq_of_number_eq e)
        refine List.pairwise_cons.2 ⟨fun r hr => ?_, ih others⟩
        rcases eq_or_mem_of_mem_place hr with rfl | hr
        · exact lt
        · exact first r hr

/-! ## Operations -/

def empty : Store := ⟨[], List.Pairwise.nil⟩

def find? (s : Store) (id : PaymentId) : Option Payment :=
  s.payments.find? fun p => p.id = id

def contains (s : Store) (id : PaymentId) : Bool :=
  (s.find? id).isSome

/-- Stores a payment, without its events, over one of the same name. -/
def insert (s : Store) (p : Payment) : Store :=
  ⟨place p.commitEvents s.payments, isOrdered_place p.commitEvents s.ordered⟩

/-- The version that a stored payment gets, if it may be written now. -/
def nextVersion (s : Store) (p : Payment) : Except Conflict Nat :=
  match s.find? p.id with
  | some stored =>
    if stored.version = p.version then .ok (stored.version + 1)
    else .error (.stale p.id stored.version p.version)
  | none => if p.version = 0 then .ok 1 else .error (.missing p.id)

/-- Stores a payment under the next version. The writer's payment gets the version too and keeps its
events. -/
def save (s : Store) (p : Payment) : Except Conflict (Payment × Store) :=
  (s.nextVersion p).map fun version =>
    let saved := p.withVersion version
    (saved, s.insert saved)

def delete (s : Store) (id : PaymentId) : Store :=
  ⟨s.payments.filter fun p => p.id ≠ id, s.ordered.filter _⟩

@[simp] theorem find?_empty (id : PaymentId) : empty.find? id = none := rfl

theorem find?_place (p : Payment) (id : PaymentId) (payments : List Payment) :
    (place p payments).find? (fun q => q.id = id) =
      if p.id = id then some p else payments.find? fun q => q.id = id := by
  induction payments with
  | nil => by_cases h : p.id = id <;> simp [place, h]
  | cons q rest ih =>
    simp only [place]
    split
    · rename_i same
      by_cases h : p.id = id <;> simp [same, h]
    · rename_i different
      split
      · by_cases h : p.id = id <;> simp [List.find?_cons, h]
      · by_cases h : p.id = id
        · have hq : q.id ≠ id := fun e => different (e.trans h.symm)
          simp [hq, h, ih]
        · simp [List.find?_cons, h, ih]

@[simp] theorem find?_insert (s : Store) (p : Payment) (id : PaymentId) :
    (s.insert p).find? id = if p.id = id then some p.commitEvents else s.find? id :=
  find?_place p.commitEvents id s.payments

@[simp] theorem find?_delete (s : Store) (id other : PaymentId) :
    (s.delete id).find? other = if id = other then none else s.find? other := by
  by_cases h : id = other
  · subst h
    simp [find?, delete]
  · rw [if_neg h]
    simp only [find?, delete, List.find?_filter]
    congr 1
    funext p
    by_cases hp : p.id = other
    · simp [hp, Ne.symm h]
    · simp [hp]

/-! ## Queries -/

/-- The first payment does not come after the second in a list that begins with the newest. -/
def newestFirst (a b : Payment) : Bool :=
  !a.createdAt.before b.createdAt

/-- The payments that meet a condition, the newest first. -/
def select (s : Store) (condition : Payment → Bool) : List Payment :=
  (s.payments.filter condition).mergeSort newestFirst

/-- The number of payments that meet a condition. -/
def countWhere (s : Store) (condition : Payment → Bool) : Nat :=
  s.payments.countP condition

/-- The payment with a transaction of that name. -/
def findTransaction? (s : Store) (transaction : String) : Option Payment :=
  s.payments.find? fun p => p.transaction == some transaction

/-- A set of payments that the service asks for. -/
inductive Query where
  | order (name : String)
  | tenant (name : String)
  | tenantStatus (tenant : String) (status : Status)
  | tenantProvider (tenant : String) (provider : Provider)
  | pending (olderThan : Option Instant)
  | failed (olderThan : Option Instant)

/-- The instant lies before the limit, if there is one. -/
def isBefore (time : Instant) (limit : Option Instant) : Bool :=
  match limit with
  | none => true
  | some limit => time.before limit

/-- The payments that a query means. -/
def Query.matches : Query → Payment → Bool
  | .order name, p => p.order == name
  | .tenant name, p => p.tenant == name
  | .tenantStatus name status, p => p.tenant == name && p.status == status
  | .tenantProvider name provider, p => p.tenant == name && p.provider == provider
  | .pending limit, p => p.status == .pending && isBefore p.createdAt limit
  | .failed limit, p => p.status == .failed && isBefore (p.failedAt.getD p.updatedAt) limit

/-- The payments of a query, the newest first. -/
def run (s : Store) (q : Query) : List Payment :=
  s.select q.matches

end Store

end Paydesk
