import Paydesk.Store
import Mathlib.Data.List.Sort

/-!
# What a tenant has stored

The stored payments of one tenant (`Store.holdings`). Everything that the store tells of a tenant's
payments follows from them: what is found under the name of one (`holdings_eq_iff`), and what a query
gives that means no other payments (`run_eq_of_holdings`). A save of another tenant that replaces no
payment of this one leaves them alone, and the same save does the same to them in any two stores.
-/

namespace Paydesk.Store

variable {s t : Store} {tenant : String}

theorem id_of_find? {id : PaymentId} {p : Payment} (h : s.find? id = some p) : p.id = id := by
  simpa using List.find?_some h

theorem mem_payments {p : Payment} : p ∈ s.payments ↔ s.find? p.id = some p := by
  refine ⟨fun h => ?_, List.mem_of_find?_eq_some⟩
  obtain ⟨payments, ordered⟩ := s
  unfold find?
  induction payments with
  | nil => exact absurd h List.not_mem_nil
  | cons q rest ih =>
    obtain ⟨first, others⟩ := List.pairwise_cons.1 ordered
    rcases List.mem_cons.1 h with rfl | hrest
    · exact List.find?_cons_of_pos (decide_eq_true rfl)
    · have hne : q.id ≠ p.id := fun heq =>
        absurd (congrArg PaymentId.number heq) (Nat.ne_of_lt (first p hrest))
      rw [List.find?_cons_of_neg (by simpa using hne)]
      exact ih others hrest

/-- The stored payments of a tenant, in the order of their names. -/
def holdings (s : Store) (tenant : String) : List Payment :=
  s.payments.filter fun p => p.tenant == tenant

theorem mem_holdings {p : Payment} :
    p ∈ s.holdings tenant ↔ s.find? p.id = some p ∧ p.tenant = tenant := by
  unfold holdings
  rw [List.mem_filter, mem_payments, beq_iff_eq]

theorem holdings_eq_iff : s.holdings tenant = t.holdings tenant ↔
    ∀ id p, p.tenant = tenant → (s.find? id = some p ↔ t.find? id = some p) := by
  constructor
  · have hsub : ∀ {s t : Store}, s.holdings tenant = t.holdings tenant → ∀ {id p},
        p.tenant = tenant → s.find? id = some p → t.find? id = some p := by
      intro s t heq id p htenant hp
      obtain rfl := id_of_find? hp
      have hmem : p ∈ s.holdings tenant := mem_holdings.2 ⟨hp, htenant⟩
      rw [heq] at hmem
      exact (mem_holdings.1 hmem).1
    exact fun heq id p htenant => ⟨hsub heq htenant, hsub heq.symm htenant⟩
  · intro h
    have hlt : Std.Irrefl fun p q : Payment => p.id.number < q.id.number :=
      ⟨fun p => Nat.lt_irrefl _⟩
    have hanti : Std.Antisymm fun p q : Payment => p.id.number < q.id.number :=
      ⟨fun p q hpq hqp => absurd hqp (Nat.lt_asymm hpq)⟩
    refine (s.ordered.filter _).eq_of_mem_iff (t.ordered.filter _) fun p => ?_
    show p ∈ s.holdings tenant ↔ p ∈ t.holdings tenant
    rw [mem_holdings, mem_holdings]
    exact and_congr_left fun htenant => h p.id p htenant

theorem filter_find?_of_holdings (h : s.holdings tenant = t.holdings tenant) (id : PaymentId) :
    (s.find? id).filter (fun p => p.tenant == tenant) =
      (t.find? id).filter fun p => p.tenant == tenant := by
  ext p
  simp only [Option.filter_eq_some_iff, beq_iff_eq]
  exact and_congr_left fun htenant => holdings_eq_iff.1 h id p htenant

/-- A query that means payments of one tenant only gives the same in both stores. -/
theorem run_eq_of_holdings {query : Query} (h : s.holdings tenant = t.holdings tenant)
    (hquery : ∀ p, query.matches p = true → p.tenant = tenant) : s.run query = t.run query := by
  have hown : ∀ s : Store, s.payments.filter query.matches =
      (s.holdings tenant).filter query.matches := by
    intro s
    unfold holdings
    rw [List.filter_filter]
    refine List.filter_congr fun p _ => ?_
    cases hp : query.matches p with
    | false => rfl
    | true => simp [hquery p hp]
  unfold run select
  rw [hown s, hown t, h]

/-- Whoever stores a payment of another tenant, and over none of this one, leaves this one's alone. -/
theorem holdings_insert_of_foreign {q : Payment} (hq : q.tenant ≠ tenant)
    (hover : ∀ p, s.find? q.id = some p → p.tenant ≠ tenant) :
    (s.insert q).holdings tenant = s.holdings tenant := by
  refine holdings_eq_iff.2 fun id p htenant => ?_
  rw [find?_insert]
  split
  · rename_i hid
    subst hid
    refine ⟨fun heq => ?_, fun hp => absurd htenant (hover p hp)⟩
    obtain rfl := Option.some.inj heq
    exact absurd htenant hq
  · exact Iff.rfl

theorem holdings_insert_congr (h : s.holdings tenant = t.holdings tenant) (q : Payment) :
    (s.insert q).holdings tenant = (t.insert q).holdings tenant := by
  refine holdings_eq_iff.2 fun id p htenant => ?_
  rw [find?_insert, find?_insert]
  split
  · exact Iff.rfl
  · exact holdings_eq_iff.1 h id p htenant

/-- A version is given out in the same way, if only payments of the tenant are stored under the
name. -/
theorem nextVersion_eq_of_holdings {q : Payment} (h : s.holdings tenant = t.holdings tenant)
    (hs : ∀ p, s.find? q.id = some p → p.tenant = tenant)
    (ht : ∀ p, t.find? q.id = some p → p.tenant = tenant) : s.nextVersion q = t.nextVersion q := by
  have hfind : s.find? q.id = t.find? q.id := by
    ext p
    exact ⟨fun hp => (holdings_eq_iff.1 h q.id p (hs p hp)).1 hp,
      fun hp => (holdings_eq_iff.1 h q.id p (ht p hp)).2 hp⟩
  unfold nextVersion
  rw [hfind]

end Paydesk.Store
