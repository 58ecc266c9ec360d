import Paydesk.Proofs.Payment.History
import Paydesk.Proofs.Store.Holdings

/-!
# Lists of payments

What a list of a tenant's payments is to hold (`Selection.listing`): the stored payments that pass
all filters, each once, the newest first. Some of the filtering may be done after sorting, because
sorting is stable: to filter what is sorted is to sort what is filtered (`filter_mergeSort`). Windows
of one size that follow each other make up a whole list (`flatMap_windows`).

In which order the store goes through its payments is left open here; it decides only how payments
of one instant follow each other.
-/

namespace Paydesk

/-! ## Sorted and cut lists -/

section Lists

variable {α : Type}

/-- A list falls in one way only into what passes a test and, behind it, what does not. -/
theorem eq_of_append_eq {test : α → Bool} {front back front' back' : List α}
    (h : front ++ back = front' ++ back') (hfront : ∀ x ∈ front, test x = true)
    (hback : ∀ x ∈ back, test x = false) (hfront' : ∀ x ∈ front', test x = true)
    (hback' : ∀ x ∈ back', test x = false) : front = front' ∧ back = back' := by
  have hfilter : ∀ {front back : List α}, (∀ x ∈ front, test x = true) →
      (∀ x ∈ back, test x = false) → (front ++ back).filter test = front := by
    intro front back hfront hback
    rw [List.filter_append, List.filter_eq_self.2 hfront,
      List.filter_eq_nil_iff.2 fun x hx => by simp [hback x hx], List.append_nil]
  have hsame : front = front' := by
    rw [← hfilter hfront hback, h, hfilter hfront' hback']
  subst hsame
  exact ⟨rfl, List.append_cancel_left h⟩

theorem filter_mergeSort {le : α → α → Bool} (trans : ∀ a b c, le a b → le b c → le a c)
    (total : ∀ a b, le a b || le b a) (keep : α → Bool) (l : List α) :
    (l.mergeSort le).filter keep = (l.filter keep).mergeSort le := by
  induction l with
  | nil => rw [List.mergeSort_nil, List.filter_nil, List.mergeSort_nil]
  | cons a l ih =>
    -- in a sorted list stands in front of `a` what must, and behind it what may
    have hplace : ∀ l, ∃ front back, (a :: l).mergeSort le = front ++ a :: back ∧
        l.mergeSort le = front ++ back ∧ (∀ b ∈ front, (!le a b) = true) ∧
        ∀ b ∈ back, (!le a b) = false := by
      intro l
      obtain ⟨front, back, hsorted, hrest, hfront⟩ := List.mergeSort_cons trans total a l
      have hpairwise := List.pairwise_append.1 (hsorted ▸ List.pairwise_mergeSort trans total _)
      refine ⟨front, back, hsorted, hrest, hfront, fun b hb => ?_⟩
      rw [(List.pairwise_cons.1 hpairwise.2.1).1 b hb]
      rfl
    obtain ⟨front, back, hsorted, hrest, hfront, hback⟩ := hplace l
    rw [hrest, List.filter_append] at ih
    rw [hsorted, List.filter_append]
    cases hkeep : keep a with
    | false =>
      have hdrop : ¬ keep a = true := by simp [hkeep]
      rw [List.filter_cons_of_neg hdrop, ih, List.filter_cons_of_neg hdrop]
    | true =>
      obtain ⟨front', back', hsorted', hrest', hfront', hback'⟩ := hplace (l.filter keep)
      obtain ⟨hfronts, hbacks⟩ := eq_of_append_eq (ih.trans hrest')
        (fun b hb => hfront b (List.mem_of_mem_filter hb))
        (fun b hb => hback b (List.mem_of_mem_filter hb)) hfront' hback'
      rw [List.filter_cons_of_pos hkeep, List.filter_cons_of_pos hkeep, hsorted', hfronts, hbacks]

/-- Windows of one size that follow each other make up the list. -/
theorem flatMap_windows (l : List α) {size count : Nat} (h : l.length ≤ count * size) :
    (List.range count).flatMap (fun k => (l.drop (k * size)).take size) = l := by
  have htake : ∀ count, (List.range count).flatMap (fun k => (l.drop (k * size)).take size) =
      l.take (count * size) := by
    intro count
    induction count with
    | zero => simp
    | succ count ih =>
      rw [List.range_succ, List.flatMap_append, ih, List.flatMap_singleton, Nat.succ_mul,
        List.take_add]
  rw [htake, List.take_of_length_le h]

end Lists

/-! ## The newest first -/

namespace Store

theorem newestFirst_iff {p q : Payment} : newestFirst p q = true ↔ q.createdAt ≤ p.createdAt := by
  unfold newestFirst
  rw [Bool.not_eq_true']
  exact Iff.rfl

theorem newestFirst_trans (p q r : Payment) (hpq : newestFirst p q = true)
    (hqr : newestFirst q r = true) : newestFirst p r = true :=
  newestFirst_iff.2 (Instant.le_trans (newestFirst_iff.1 hqr) (newestFirst_iff.1 hpq))

theorem newestFirst_total (p q : Payment) : (newestFirst p q || newestFirst q p) = true := by
  rw [Bool.or_eq_true, newestFirst_iff, newestFirst_iff]
  by_contra hneither
  obtain ⟨hlt, hlt'⟩ := not_or.1 hneither
  have hbefore := Instant.before_iff.1 (Bool.eq_true_of_not_eq_false hlt)
  have hbefore' := Instant.before_iff.1 (Bool.eq_true_of_not_eq_false hlt')
  omega

theorem nodup_names (s : Store) : (s.payments.map fun p => p.id).Nodup :=
  List.pairwise_map.2 (s.ordered.imp fun hlt heq => Nat.ne_of_lt hlt (congrArg _ heq))

section Sorted

variable {s : Store} {entries : List Payment} {condition : Payment → Bool}

theorem mem_sorted (h : entries.Perm s.payments) {p : Payment} :
    p ∈ (entries.filter condition).mergeSort newestFirst ↔
      s.find? p.id = some p ∧ condition p = true := by
  rw [List.mem_mergeSort, List.mem_filter, h.mem_iff, mem_payments]

theorem pairwise_sorted (l : List Payment) :
    (l.mergeSort newestFirst).Pairwise fun p q => q.createdAt ≤ p.createdAt :=
  (List.pairwise_mergeSort newestFirst_trans newestFirst_total _).imp newestFirst_iff.1

theorem nodup_sorted (h : entries.Perm s.payments) (condition : Payment → Bool) :
    (((entries.filter condition).mergeSort newestFirst).map fun p => p.id).Nodup := by
  have hentries : (entries.map fun p => p.id).Nodup := (h.map _).nodup_iff.2 s.nodup_names
  have hkept : ((entries.filter condition).map fun p => p.id).Nodup :=
    hentries.sublist (List.filter_sublist.map _)
  exact ((List.mergeSort_perm _ _).map _).nodup_iff.2 hkept

end Sorted

/-- What a query gives if the store goes through its payments in this order, as `run` does in the order
of their names. -/
def answer (entries : List Payment) (query : Query) : List Payment :=
  (entries.filter query.matches).mergeSort newestFirst

end Store

/-! ## Selections -/

/-- Which payments a list is to hold: those of a tenant and, where they are named, of a state, of a
provider and of an order. -/
structure Selection where
  tenant : String
  status : Option Status
  provider : Option Provider
  order : Option String

namespace Selection

/-- The payment is one of them. -/
def admits (x : Selection) (p : Payment) : Bool :=
  p.tenant == x.tenant && x.status.all (fun wanted => p.status == wanted) &&
    x.provider.all (fun wanted => p.provider == wanted) &&
    x.order.all (fun wanted => p.order == wanted)

/-- The selected payments, the newest first. -/
def listing (x : Selection) (entries : List Payment) : List Payment :=
  (entries.filter x.admits).mergeSort Store.newestFirst

theorem admits_iff (x : Selection) (p : Payment) : x.admits p = true ↔
    p.tenant = x.tenant ∧ (∀ wanted ∈ x.status, p.status = wanted) ∧
      (∀ wanted ∈ x.provider, p.provider = wanted) ∧ ∀ wanted ∈ x.order, p.order = wanted := by
  simp only [admits, Bool.and_eq_true, beq_iff_eq, Option.all_eq_true, and_assoc,
    Option.mem_def]

variable (x : Selection) {s : Store} {entries : List Payment}

theorem mem_listing (h : entries.Perm s.payments) {p : Payment} :
    p ∈ x.listing entries ↔ s.find? p.id = some p ∧ x.admits p = true :=
  Store.mem_sorted h

theorem pairwise_listing (entries : List Payment) :
    (x.listing entries).Pairwise fun p q => q.createdAt ≤ p.createdAt :=
  Store.pairwise_sorted _

theorem nodup_listing (h : entries.Perm s.payments) :
    ((x.listing entries).map fun p => p.id).Nodup :=
  Store.nodup_sorted h x.admits

end Selection

end Paydesk
