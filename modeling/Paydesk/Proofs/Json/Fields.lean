import Paydesk.Fields
import Mathlib.Data.List.Basic

/-!
# Fields in the order of their names

Fields that stand in the order of their names are what writing them gives (`IsAscending.ofList_eq`),
and a field of a list in any order is found after it was written (`get?_ofList`).
-/

namespace Paydesk.Fields

variable {α : Type} {name : String} {value : α} {fields changes : Fields α}

theorem IsAscending.filter (h : IsAscending fields) (p : String × α → Bool) :
    IsAscending (fields.filter p) :=
  List.Pairwise.sublist (List.filter_sublist.map Prod.fst) h

theorem insert_of_lt (h : ∀ f ∈ fields, f.1 < name) :
    insert name value fields = fields ++ [(name, value)] := by
  induction fields with
  | nil => rfl
  | cons first rest ih =>
    obtain ⟨key, old⟩ := first
    have hlt : key < name := h _ List.mem_cons_self
    rw [insert, if_neg (String.ne_of_lt hlt), if_neg (String.lt_asymm hlt),
      ih fun f hf => h f (List.mem_cons_of_mem _ hf), List.cons_append]

/-! ## Writing fields -/

theorem merge_cons (fields : Fields α) (change : String × α) (changes : Fields α) :
    merge fields (change :: changes) = merge (insert change.1 change.2 fields) changes := rfl

theorem merge_of_lt (hchanges : IsAscending changes)
    (h : ∀ f ∈ fields, ∀ change ∈ changes, f.1 < change.1) :
    merge fields changes = fields ++ changes := by
  induction changes generalizing fields with
  | nil => exact (List.append_nil fields).symm
  | cons change rest ih =>
    obtain ⟨hfirst, hrest⟩ := isAscending_cons.1 hchanges
    rw [merge_cons, insert_of_lt fun f hf => h f hf change List.mem_cons_self, ih hrest,
      List.append_assoc, List.singleton_append]
    intro f hf c hc
    rcases List.mem_append.1 hf with hold | hnew
    · exact h f hold c (List.mem_cons_of_mem _ hc)
    · rw [List.mem_singleton.1 hnew]
      exact hfirst c hc

theorem mem_ofList {field : String × α} {pairs : List (String × α)} (h : field ∈ ofList pairs) :
    field ∈ pairs :=
  (mem_merge h).resolve_right List.not_mem_nil

theorem isAscending_ofList (pairs : List (String × α)) : IsAscending (ofList pairs) :=
  isAscending_merge List.Pairwise.nil

theorem IsAscending.ofList_eq (h : IsAscending fields) : ofList fields = fields :=
  merge_of_lt h fun _ hf => absurd hf List.not_mem_nil

/-! ## Finding a field -/

theorem get?_of_mem {pairs : List (String × α)} (distinct : (pairs.map Prod.fst).Nodup)
    (h : (name, value) ∈ pairs) : get? name pairs = some value := by
  induction pairs with
  | nil => cases h
  | cons first rest ih =>
    obtain ⟨hnew, hrest⟩ := List.nodup_cons.1 distinct
    rcases List.mem_cons.1 h with rfl | hmem
    · exact if_pos rfl
    · have hne : first.1 ≠ name := by
        rintro rfl
        exact hnew (List.mem_map.2 ⟨_, hmem, rfl⟩)
      rw [get?, if_neg hne, ih hrest hmem]

theorem get?_ofList {pairs : List (String × α)} (distinct : (pairs.map Prod.fst).Nodup)
    (h : (name, value) ∈ pairs) : get? name (ofList pairs) = some value := by
  rw [ofList, get?_merge name distinct, get?_of_mem distinct h]
  rfl

theorem get?_filter_of_ne {key : String} (h : name ≠ key) (fields : Fields α) :
    get? name (fields.filter fun field => field.1 != key) = get? name fields := by
  induction fields with
  | nil => rfl
  | cons first rest ih =>
    by_cases hkey : first.1 = key
    · rw [List.filter_cons_of_neg (by simp [hkey]), ih, get?, if_neg (by rw [hkey]; exact h.symm)]
    · rw [List.filter_cons_of_pos (by simp [hkey]), get?, get?, ih]

end Paydesk.Fields
