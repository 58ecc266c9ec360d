import Paydesk.Proofs.Store.Listing
import Paydesk.Service.Desk
import Mathlib.Data.List.Permutation

/-!
# Listing

`Desk.list_is_window`: a request for a list is answered with a window of the payments that it
selects, and the windows of one size that follow each other make up all of them.

The service asks the store for payments by state, by provider or by tenant, whichever the request
names first, filters what it gets and sorts it once more. Whatever the query was, this is the list of
the whole selection (`mergeSort_answer`). So the answer is a function of the payments that the store
reads, in the order in which it reads them; nothing else is assumed of the store or of its monad.
-/

namespace Paydesk

variable {γ π : Type}

/-! ## The access paths -/

namespace Selection

variable (x : Selection)

theorem passes_and_matches (p : Payment) :
    (Desk.passes x.provider x.order p && (Desk.listQuery x.tenant x.status x.provider).matches p) =
      x.admits p := by
  obtain ⟨tenant, status, provider, order⟩ := x
  rw [Bool.eq_iff_iff]
  -- a state goes before a provider; a provider that the query has looked at is looked at again
  cases status <;> cases provider <;>
    simp only [Desk.passes, Desk.listQuery, Store.Query.matches, admits, Option.all_some,
      Option.all_none, Bool.and_eq_true] <;> tauto

/-- What the store gives, filtered and sorted once more, is the list of the whole selection. -/
theorem mergeSort_answer (entries : List Payment) :
    ((Store.answer entries (Desk.listQuery x.tenant x.status x.provider)).filter
      (Desk.passes x.provider x.order)).mergeSort Store.newestFirst = x.listing entries := by
  have hlisting : (Store.answer entries (Desk.listQuery x.tenant x.status x.provider)).filter
      (Desk.passes x.provider x.order) = x.listing entries := by
    unfold Store.answer listing
    rw [filter_mergeSort Store.newestFirst_trans Store.newestFirst_total, List.filter_filter,
      List.filter_congr fun p _ => x.passes_and_matches p]
  rw [hlisting]
  exact List.mergeSort_of_pairwise
    (List.pairwise_mergeSort Store.newestFirst_trans Store.newestFirst_total _)

end Selection

/-! ## One query -/

namespace Desk

theorem run_list (tenant : String) {r : ListRequest} {status : Option Status}
    {provider : Option Provider} (hstatus : readFilter Status.read r.status = .ok status)
    (hprovider : readFilter Provider.read r.provider = .ok provider) :
    (list tenant r : Task γ π (List Payment)).run =
      .list (listQuery tenant status provider) fun found =>
        .done ((found.mapError .ofStore).map fun payments =>
          window r ((payments.filter (passes provider r.order)).mergeSort Store.newestFirst)) := by
  unfold list
  rw [hstatus, hprovider]
  refine congrArg (Workflow.list _) (funext fun found => ?_)
  cases found <;> rfl

/-- The store answers queries from the payments that it reads, in the order in which it reads them. -/
def AnswersFrom {m : Type → Type} [Monad m] (h : Workflow.Handler γ π m) (entries : m (List Payment)) :
    Prop :=
  ∀ query, h.list query = (fun es => .ok (Store.answer es query)) <$> entries

section Store

variable {m : Type → Type} [Monad m] [LawfulMonad m] {h : Workflow.Handler γ π m}
  {entries : m (List Payment)} {r : ListRequest} {status : Option Status}
  {provider : Option Provider}

theorem answersFrom_of_run {store : m Store}
    (hrun : ∀ query, h.list query = (fun s => .ok (s.run query)) <$> store) :
    AnswersFrom h (Store.payments <$> store) := by
  intro query
  rw [hrun, Functor.map_map]
  rfl

theorem answer_list (hstore : AnswersFrom h entries) (tenant : String)
    (hstatus : readFilter Status.read r.status = .ok status)
    (hprovider : readFilter Provider.read r.provider = .ok provider) :
    (list tenant r : Task γ π (List Payment)).run.run h =
      (fun es => .ok (window r (Selection.listing ⟨tenant, status, provider, r.order⟩ es))) <$>
        entries := by
  rw [run_list tenant hstatus hprovider, Workflow.run, hstore, ← bind_pure_comp, bind_assoc,
    ← bind_pure_comp]
  congr 1
  funext es
  rw [pure_bind, ← Selection.mergeSort_answer]
  rfl

/-- **A list is a window of what is selected.** A request whose texts for state and provider are
read, and a store that answers from the payments that it holds, read in whatever order. Then the
request is answered, for any limit and any offset, with the payments from the offset on of those that
it selects, up to the limit, by default 50, and never more than 500. Those that it selects are the
stored payments of the tenant and of the state, the provider and the order that it names, each once
and the newest first. Windows of a size of at most 500 that follow each other make up all of them. -/
theorem list_is_window (hstore : AnswersFrom h entries) (tenant : String)
    (hstatus : readFilter Status.read r.status = .ok status)
    (hprovider : readFilter Provider.read r.provider = .ok provider) :
    let selected := Selection.listing ⟨tenant, status, provider, r.order⟩
    let page := fun (limit offset : Option Nat) (es : List Payment) =>
      ((selected es).drop (offset.getD 0)).take (min (limit.getD 50) 500)
    (∀ limit offset,
      (list tenant { r with limit := limit, offset := offset } : Task γ π _).run.run h =
        (fun es => .ok (page limit offset es)) <$> entries) ∧
    ∀ (s : Store) (es : List Payment), es.Perm s.payments →
      (∀ p, p ∈ selected es ↔ s.find? p.id = some p ∧ p.tenant = tenant ∧
        (∀ wanted ∈ status, p.status = wanted) ∧ (∀ wanted ∈ provider, p.provider = wanted) ∧
        ∀ wanted ∈ r.order, p.order = wanted) ∧
      ((selected es).map fun p => p.id).Nodup ∧
      ((selected es).Pairwise fun p q => q.createdAt ≤ p.createdAt) ∧
      ∀ size ≤ 500, ∀ count, (selected es).length ≤ count * size →
        (List.range count).flatMap (fun k => page (some size) (some (k * size)) es) =
          selected es := by
  intro selected page
  refine ⟨fun limit offset => answer_list hstore tenant hstatus hprovider,
    fun s es hperm => ⟨fun p => ?_, ?_, ?_, ?_⟩⟩
  · rw [Selection.mem_listing _ hperm, Selection.admits_iff]
  · exact Selection.nodup_listing _ hperm
  · exact Selection.pairwise_listing _ es
  · intro size hsize count hcount
    have hpage : ∀ k, page (some size) (some (k * size)) es =
        ((selected es).drop (k * size)).take size := fun k =>
      congrArg (fun n => ((selected es).drop (k * size)).take n) (Nat.min_eq_left hsize)
    simp only [hpage]
    exact flatMap_windows _ hcount

end Store

/-! ### Pages of two -/

/-- A store that is only read. -/
def reader : Workflow.Handler Unit Empty (ReaderM Store) where
  clock := return ⟨0, 0⟩
  freshId := return .make 0 0
  find id := return .ok ((← read).find? id)
  list query := return .ok ((← read).run query)
  save p := return .error (.conflict (.missing p.id))
  pay _ _ := return .error .timedOut
  offer listener _ := nomatch listener
  warn _ := return ()

/-- A payment of one dollar, made at a time. -/
def sale (tenant : String) (serial : Nat) (seconds : Int) : Payment :=
  .create (.make 0 serial) ⟨seconds, 0⟩
    { tenant := tenant
      provider := .paypal
      amount := ⟨⟨1, 0, by decide, Nat.zero_le _⟩, by decide, by decide, by decide⟩
      currency := .usd
      order := "first"
      reference := none
      metadata := none }

/-- Three payments of a shop, two of them of one instant, and one of a rival. -/
def sales : Store :=
  (((Store.empty.insert (sale "shop" 0 5)).insert (sale "rival" 1 6)).insert
    (sale "shop" 2 5)).insert (sale "shop" 3 7)

/-- The newest payment of the shop and one of the other two are on the first page of two, the last one
is on the second page. -/
theorem list_is_window_pages :
    AnswersFrom reader (Store.payments <$> read) ∧
    readFilter Status.read (some " pending ") = .ok (some .pending) ∧
    readFilter Provider.read (some "PayPal") = .ok (some .paypal) ∧
    let page := fun k : Nat =>
      (list "shop" ⟨some " pending ", some "PayPal", none, some 2, some (k * 2)⟩ :
        Task Unit Empty _).run.run reader sales
    (page 0).map (fun ps => ps.map fun p => p.id) = .ok [.make 0 3, .make 0 0] ∧
    (page 1).map (fun ps => ps.map fun p => p.id) = .ok [.make 0 2] := by
  have hstore : AnswersFrom reader (Store.payments <$> read) := answersFrom_of_run fun _ => rfl
  have hstatus : readFilter Status.read (some " pending ") = .ok (some .pending) := by decide
  have hprovider : readFilter Provider.read (some "PayPal") = .ok (some .paypal) := by decide
  have hanswer := (list_is_window hstore "shop"
    (r := ⟨some " pending ", some "PayPal", none, none, none⟩) hstatus hprovider).1 (some 2)
  have hids : (Selection.listing ⟨"shop", some .pending, some .paypal, none⟩ sales.payments).map
      (fun p => p.id) = [.make 0 3, .make 0 0, .make 0 2] := by cbv
  refine ⟨hstore, hstatus, hprovider, ?_⟩
  intro page
  have hpage : ∀ k, (page k).map (fun ps => ps.map fun p => p.id) =
      .ok (([.make 0 3, .make 0 0, .make 0 2] : List PaymentId).drop (k * 2) |>.take 2) := by
    intro k
    have hanswered : page k = .ok (((Selection.listing ⟨"shop", some .pending, some .paypal, none⟩
        sales.payments).drop (k * 2)).take 2) := congrFun (hanswer (some (k * 2))) sales
    rw [hanswered, ← hids, ← List.map_drop, ← List.map_take]
    rfl
  exact ⟨hpage 0, hpage 1⟩

end Desk

end Paydesk
