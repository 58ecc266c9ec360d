import Paydesk.Proofs.Store.Listing
import Mathlib.Algebra.BigOperators.Group.Finset.Basic

/-!
# Queries after any calls

`Store.queries_agree`: whatever calls a store has had, its queries describe one set of payments, and
this set is told by the calls alone: a payment is stored as its last accepted save has left it, unless
it was deleted after that.

1. Which call was the last accepted save of a payment is settled one call after the other
   (`lastSaved_concat`), and so is what is stored (`find?_after_accepted`,
   `find?_after_of_not_touches`). By induction on the calls, what is found is what was saved last
   (`find?_after`).
2. Every stored payment is counted once under its state and once under its tenant
   (`countWhere_eq_sum`).
3. A list is a filter and a sort of the stored payments, in whatever order they are read
   (`mem_sorted`, `nodup_sorted`, `pairwise_sorted`). Because sorting is stable, what a limit cuts off
   can be cut off afterwards (`answer_eq_filter`).
-/

namespace Paydesk.Store

/-! ## Calls -/

inductive Call where
  | save (p : Payment)
  | delete (id : PaymentId)
  /-- Any query. -/
  | ask

def Call.apply (s : Store) : Call → Store
  | .save p =>
    match s.save p with
    | .ok (_, stored) => stored
    | .error _ => s
  | .delete id => s.delete id
  | .ask => s

/-- The store after calls in a row, empty at first. -/
def after (calls : List Call) : Store :=
  calls.foldl Call.apply empty

/-- The call at this place is a save that is accepted, and leaves its writer with this payment. -/
def Accepted (calls : List Call) (place : Nat) (saved : Payment) : Prop :=
  ∃ p stored, calls[place]? = some (.save p) ∧
    (after (calls.take place)).save p = .ok (saved, stored)

/-- The call at this place saves a payment of that name and is accepted, or it deletes the name. -/
def Touches (calls : List Call) (place : Nat) (id : PaymentId) : Prop :=
  (∃ saved, Accepted calls place saved ∧ saved.id = id) ∨ calls[place]? = some (.delete id)

/-- The last accepted save of that name leaves its writer with this payment, and no deletion of the
name follows. -/
def LastSaved (calls : List Call) (id : PaymentId) (saved : Payment) : Prop :=
  ∃ place, Accepted calls place saved ∧ saved.id = id ∧ ∀ later > place, ¬ Touches calls later id

variable {calls : List Call} {c : Call} {place : Nat} {id : PaymentId} {saved : Payment}

theorem after_concat (calls : List Call) (c : Call) : after (calls ++ [c]) = c.apply (after calls) :=
  List.foldl_append

/-! ### What calls are accepted -/

theorem Accepted.lt_length (h : Accepted calls place saved) : place < calls.length := by
  obtain ⟨p, stored, hcall, -⟩ := h
  exact (List.getElem?_eq_some_iff.1 hcall).1

theorem Touches.lt_length (h : Touches calls place id) : place < calls.length := by
  rcases h with ⟨saved, haccepted, -⟩ | hcall
  · exact haccepted.lt_length
  · exact (List.getElem?_eq_some_iff.1 hcall).1

theorem accepted_concat_of_lt (h : place < calls.length) (c : Call) :
    Accepted (calls ++ [c]) place saved ↔ Accepted calls place saved := by
  unfold Accepted
  rw [List.getElem?_append_left h, List.take_append_of_le_length (Nat.le_of_lt h)]

theorem touches_concat_of_lt (h : place < calls.length) (c : Call) :
    Touches (calls ++ [c]) place id ↔ Touches calls place id := by
  unfold Touches
  simp only [accepted_concat_of_lt h, List.getElem?_append_left h]

theorem accepted_concat_length : Accepted (calls ++ [c]) calls.length saved ↔
    ∃ p stored, c = .save p ∧ (after calls).save p = .ok (saved, stored) := by
  unfold Accepted
  rw [List.getElem?_concat_length, List.take_left]
  simp only [Option.some_inj]

theorem touches_concat_length : Touches (calls ++ [c]) calls.length id ↔
    (∃ saved, Accepted (calls ++ [c]) calls.length saved ∧ saved.id = id) ∨ c = .delete id := by
  unfold Touches
  rw [List.getElem?_concat_length, Option.some_inj]

theorem lastSaved_concat : LastSaved (calls ++ [c]) id saved ↔
    Accepted (calls ++ [c]) calls.length saved ∧ saved.id = id ∨
      LastSaved calls id saved ∧ ¬ Touches (calls ++ [c]) calls.length id := by
  have hlength : (calls ++ [c]).length = calls.length + 1 := List.length_append
  constructor
  · rintro ⟨place, haccepted, hid, hlater⟩
    have hplace := haccepted.lt_length
    rw [hlength] at hplace
    rcases Nat.lt_succ_iff_lt_or_eq.1 hplace with hlt | rfl
    · refine .inr ⟨⟨place, (accepted_concat_of_lt hlt c).1 haccepted, hid, fun later hgt h => ?_⟩,
        hlater calls.length hlt⟩
      exact hlater later hgt ((touches_concat_of_lt h.lt_length c).2 h)
    · exact .inl ⟨haccepted, hid⟩
  · rintro (⟨haccepted, hid⟩ | ⟨⟨place, haccepted, hid, hlater⟩, hlast⟩)
    · refine ⟨calls.length, haccepted, hid, fun later hgt h => ?_⟩
      have hbefore := h.lt_length
      omega
    · have hplace := haccepted.lt_length
      refine ⟨place, (accepted_concat_of_lt hplace c).2 haccepted, hid, fun later hgt h => ?_⟩
      have hbefore := h.lt_length
      rw [hlength] at hbefore
      rcases Nat.lt_succ_iff_lt_or_eq.1 hbefore with hlt | rfl
      · exact hlater later hgt ((touches_concat_of_lt hlt c).1 h)
      · exact hlast h

/-! ### What is stored -/

theorem insert_of_save {s stored : Store} {p : Payment} (h : s.save p = .ok (saved, stored)) :
    stored = s.insert saved := by
  unfold save at h
  cases hversion : s.nextVersion p with
  | error why =>
    rw [hversion] at h
    cases h
  | ok version =>
    rw [hversion] at h
    cases h
    rfl

/-- What is found after an accepted save: the payment that it leaves its writer with, without its
events. -/
theorem find?_after_accepted (h : Accepted (calls ++ [c]) calls.length saved) (id : PaymentId) :
    (after (calls ++ [c])).find? id =
      if saved.id = id then some saved.commitEvents else (after calls).find? id := by
  obtain ⟨p, stored, rfl, hsave⟩ := accepted_concat_length.1 h
  rw [after_concat, Call.apply, hsave, insert_of_save hsave, find?_insert]

theorem find?_after_of_not_touches (h : ¬ Touches (calls ++ [c]) calls.length id) :
    (after (calls ++ [c])).find? id = (after calls).find? id := by
  rw [touches_concat_length, not_or] at h
  obtain ⟨hnone, hdelete⟩ := h
  cases c with
  | ask => rw [after_concat, Call.apply]
  | delete other =>
    have hne : other ≠ id := fun heq => hdelete (heq ▸ rfl)
    rw [after_concat, Call.apply, find?_delete, if_neg hne]
  | save p =>
    cases hsave : (after calls).save p with
    | error why => rw [after_concat, Call.apply, hsave]
    | ok answer =>
      obtain ⟨saved, stored⟩ := answer
      have haccepted := accepted_concat_length.2 ⟨p, stored, rfl, hsave⟩
      rw [find?_after_accepted haccepted, if_neg fun hid => hnone ⟨saved, haccepted, hid⟩]

/-- One call accepts at most one save. -/
theorem Accepted.unique {other : Payment} (h : Accepted calls place saved)
    (h' : Accepted calls place other) : saved = other := by
  obtain ⟨p, stored, hcall, hsave⟩ := h
  obtain ⟨q, stored', hcall', hsave'⟩ := h'
  cases hcall.symm.trans hcall'
  cases hsave.symm.trans hsave'
  rfl

/-- **What is found is what was saved last**, without its events, unless it was deleted after that. -/
theorem find?_after {p : Payment} : (after calls).find? id = some p ↔
    ∃ saved, LastSaved calls id saved ∧ p = saved.commitEvents := by
  induction calls using List.reverseRecOn generalizing p with
  | nil =>
    constructor
    · exact nofun
    · rintro ⟨saved, ⟨place, haccepted, -⟩, -⟩
      exact absurd haccepted.lt_length (Nat.not_lt_zero place)
  | append_singleton calls c ih =>
    simp only [lastSaved_concat]
    by_cases htouches : Touches (calls ++ [c]) calls.length id
    · simp only [htouches, not_true_eq_false, and_false, or_false]
      rcases touches_concat_length.1 htouches with ⟨saved, haccepted, hid⟩ | rfl
      · rw [find?_after_accepted haccepted, if_pos hid]
        constructor
        · exact fun h => ⟨saved, ⟨haccepted, hid⟩, (Option.some.inj h).symm⟩
        · rintro ⟨other, ⟨hother, -⟩, rfl⟩
          rw [haccepted.unique hother]
      · rw [after_concat, Call.apply, find?_delete, if_pos rfl]
        constructor
        · exact nofun
        · rintro ⟨saved, ⟨haccepted, -⟩, -⟩
          obtain ⟨q, stored, hq, -⟩ := accepted_concat_length.1 haccepted
          cases hq
    · rw [find?_after_of_not_touches htouches, ih]
      constructor
      · rintro ⟨saved, hlast, rfl⟩
        exact ⟨saved, .inr ⟨hlast, htouches⟩, rfl⟩
      · rintro ⟨saved, ⟨haccepted, hid⟩ | ⟨hlast, -⟩, rfl⟩
        · exact absurd (touches_concat_length.2 (.inl ⟨saved, haccepted, hid⟩)) htouches
        · exact ⟨saved, hlast, rfl⟩

/-! ## Numbers of payments -/

theorem countWhere_true (s : Store) : (s.countWhere fun _ => true) = s.payments.length :=
  congrFun List.countP_true s.payments

/-- Over keys that are all different, among which are those of all payments, the numbers of the
payments of each key make up the number of all. -/
theorem countWhere_eq_sum {κ : Type} [DecidableEq κ] (s : Store) (key : Payment → κ) {keys : List κ}
    (hnodup : keys.Nodup) (hkeys : ∀ p ∈ s.payments, key p ∈ keys) :
    (s.countWhere fun _ => true) = (keys.map fun k => s.countWhere fun p => key p == k).sum := by
  have hcount : ∀ k, (s.countWhere fun p => key p == k) =
      (s.payments.map key : Multiset κ).count k := by
    intro k
    rw [Multiset.coe_count, List.count, List.countP_map]
    rfl
  have hmem : ∀ k ∈ (s.payments.map key : Multiset κ), k ∈ (⟨keys, hnodup⟩ : Finset κ) := by
    intro k hk
    obtain ⟨p, hp, rfl⟩ := List.mem_map.1 hk
    exact hkeys p hp
  have hsum := Multiset.sum_count_eq_card hmem
  rw [Multiset.coe_card, List.length_map, ← s.countWhere_true] at hsum
  simp only [hcount]
  exact hsum.symm

theorem contains_iff {s : Store} : s.contains id = true ↔ ∃ p, s.find? id = some p :=
  Option.isSome_iff_exists

theorem mem_names {s : Store} :
    (id ∈ s.payments.map fun p => p.id) ↔ s.contains id = true := by
  rw [contains_iff, List.mem_map]
  constructor
  · rintro ⟨p, hp, rfl⟩
    exact ⟨p, mem_payments.1 hp⟩
  · rintro ⟨p, hp⟩
    obtain rfl := id_of_find? hp
    exact ⟨p, mem_payments.2 hp, rfl⟩

/-! ## Lists of payments -/

/-- A payment is one that a query means. -/
def Query.Means : Query → Payment → Prop
  | .order name, p => p.order = name
  | .tenant name, p => p.tenant = name
  | .tenantStatus name status, p => p.tenant = name ∧ p.status = status
  | .tenantProvider name provider, p => p.tenant = name ∧ p.provider = provider
  | .pending limit, p => p.status = .pending ∧ ∀ time ∈ limit, p.createdAt < time
  | .failed limit, p => p.status = .failed ∧ ∀ time ∈ limit, p.failedAt.getD p.updatedAt < time

theorem isBefore_iff {time : Instant} {limit : Option Instant} :
    isBefore time limit = true ↔ ∀ bound ∈ limit, time < bound := by
  cases limit with
  | none => exact ⟨fun _ => nofun, fun _ => rfl⟩
  | some bound => simp [isBefore]; rfl

theorem Query.matches_iff (query : Query) (p : Payment) : query.matches p = true ↔ query.Means p := by
  cases query <;> simp only [Query.matches, Means, Bool.and_eq_true, beq_iff_eq, isBefore_iff]

theorem answer_eq_filter {narrow wide : Query} {test : Payment → Bool}
    (h : ∀ p, narrow.matches p = (test p && wide.matches p)) (entries : List Payment) :
    answer entries narrow = (answer entries wide).filter test := by
  unfold answer
  rw [filter_mergeSort newestFirst_trans newestFirst_total, List.filter_filter,
    List.filter_congr fun p _ => h p]

/-- What the search for a transaction gives if the store goes through its payments in this order, as
`findTransaction?` does in the order of their names. -/
def searchTransaction? (entries : List Payment) (name : String) : Option Payment :=
  entries.find? fun p => p.transaction == some name

section Transactions

variable {s : Store} {entries : List Payment} {name : String}

theorem of_searchTransaction? (h : entries.Perm s.payments) {p : Payment}
    (hp : searchTransaction? entries name = some p) :
    s.find? p.id = some p ∧ p.transaction = some name :=
  ⟨mem_payments.1 (h.mem_iff.1 (List.mem_of_find?_eq_some hp)), by
    simpa using List.find?_some hp⟩

theorem searchTransaction?_eq_none (h : entries.Perm s.payments) :
    searchTransaction? entries name = none ↔
      ∀ id p, s.find? id = some p → p.transaction ≠ some name := by
  unfold searchTransaction?
  rw [List.find?_eq_none]
  constructor
  · intro hnone id p hp
    obtain rfl := id_of_find? hp
    simpa using hnone p (h.mem_iff.2 (mem_payments.2 hp))
  · intro hnone p hp
    simpa using hnone p.id p (mem_payments.1 (h.mem_iff.1 hp))

end Transactions

/-! ## After any calls -/

/-- **Queries agree with each other and with the calls before them.** Whatever calls the store has had,
a payment exists exactly if a save of it was accepted and no deletion of it followed the last such
save; and it is found as this save has left it, under the version that it was given then, without
events. The number of payments is that of the names that exist, and the sum of the numbers for each
state and of those for each tenant. In whatever order the store reads its payments, a list holds each
payment that the query means once and nothing else, the newest first; the list for a limit is what
lies strictly before it in the list without one; and the search for a transaction finds a payment that
has it if there is one. -/
theorem queries_agree (calls : List Call) :
    let s := after calls
    let total := s.countWhere fun _ => true
    (∀ id, s.contains id = true ↔ ∃ saved, LastSaved calls id saved) ∧
    (∀ id p, s.find? id = some p ↔ ∃ saved, LastSaved calls id saved ∧ p = saved.commitEvents) ∧
    (∃ ids : List PaymentId, ids.Nodup ∧ (∀ id, id ∈ ids ↔ s.contains id = true) ∧
      total = ids.length) ∧
    total = (Status.all.map fun status => s.countWhere fun p => p.status == status).sum ∧
    total = ((s.payments.map fun p => p.tenant).dedup.map fun tenant =>
      s.countWhere fun p => p.tenant == tenant).sum ∧
    s.run = answer s.payments ∧ s.findTransaction? = searchTransaction? s.payments ∧
    ∀ entries, entries.Perm s.payments →
      (∀ query,
        (∀ p, p ∈ answer entries query ↔ s.find? p.id = some p ∧ query.Means p) ∧
        ((answer entries query).map fun p => p.id).Nodup ∧
        (answer entries query).Pairwise fun p q => q.createdAt ≤ p.createdAt) ∧
      (∀ time, answer entries (.pending (some time)) =
        (answer entries (.pending none)).filter fun p => p.createdAt.before time) ∧
      (∀ time, answer entries (.failed (some time)) =
        (answer entries (.failed none)).filter fun p => (p.failedAt.getD p.updatedAt).before time) ∧
      ∀ name,
        (∀ p, searchTransaction? entries name = some p →
          s.find? p.id = some p ∧ p.transaction = some name) ∧
        (searchTransaction? entries name = none ↔
          ∀ id p, s.find? id = some p → p.transaction ≠ some name) := by
  intro s total
  refine ⟨fun id => ?exists_, fun id p => find?_after, ?names, ?states, ?tenants, rfl, rfl,
    fun entries hperm => ⟨fun query => ⟨fun p => ?means, nodup_sorted hperm query.matches,
      pairwise_sorted _⟩, fun time => ?pending, fun time => ?failed, fun name =>
      ⟨fun p hp => of_searchTransaction? hperm hp, searchTransaction?_eq_none hperm⟩⟩⟩
  case exists_ =>
    rw [contains_iff]
    constructor
    · rintro ⟨p, hp⟩
      obtain ⟨saved, hlast, -⟩ := find?_after.1 hp
      exact ⟨saved, hlast⟩
    · exact fun ⟨saved, hlast⟩ => ⟨_, find?_after.2 ⟨saved, hlast, rfl⟩⟩
  case names =>
    exact ⟨_, s.nodup_names, fun id => mem_names, by rw [List.length_map, ← s.countWhere_true]⟩
  case states =>
    have hall : ∀ status : Status, status ∈ Status.all := fun status => by
      cases status <;> decide
    exact s.countWhere_eq_sum (fun p => p.status) (by decide) fun p _ => hall _
  case tenants =>
    exact s.countWhere_eq_sum (fun p => p.tenant) (List.nodup_dedup _) fun p hp =>
      List.mem_dedup.2 (List.mem_map.2 ⟨p, hp, rfl⟩)
  case means => rw [answer, mem_sorted hperm, query.matches_iff]
  case pending =>
    refine answer_eq_filter (fun p => ?_) entries
    simp only [Query.matches, isBefore, Bool.and_true]
    exact Bool.and_comm _ _
  case failed =>
    refine answer_eq_filter (fun p => ?_) entries
    simp only [Query.matches, isBefore, Bool.and_true]
    exact Bool.and_comm _ _

end Paydesk.Store
