/-!
# Fields

Named values. Fields that are written one by one stand in the order of their names, and a name stands
for one value: writing it again replaces the value, so of two writes the last one wins.
-/

namespace Paydesk

/-- Values by name. -/
abbrev Fields (α : Type) : Type := List (String × α)

namespace Fields

variable {α : Type}

def get? (name : String) : Fields α → Option α
  | [] => none
  | (key, value) :: rest => if key = name then some value else get? name rest

/-- Gives a name its value and keeps the order. -/
def insert (name : String) (value : α) : Fields α → Fields α
  | [] => [(name, value)]
  | (key, old) :: rest =>
    if key = name then (key, value) :: rest
    else if name < key then (name, value) :: (key, old) :: rest
    else (key, old) :: insert name value rest

/-- Writes the second fields over the first. -/
def merge (fields changes : Fields α) : Fields α :=
  changes.foldl (fun all change => insert change.1 change.2 all) fields

/-- The fields of pairs in any order. -/
def ofList (pairs : List (String × α)) : Fields α :=
  merge [] pairs

@[simp] theorem get?_insert (name key : String) (value : α) (fields : Fields α) :
    get? key (insert name value fields) = if name = key then some value else get? key fields := by
  induction fields with
  | nil => rfl
  | cons field rest ih =>
    obtain ⟨k, old⟩ := field
    by_cases hk : k = name
    · subst hk
      by_cases h : k = key <;> simp [insert, get?, h]
    · by_cases hlt : name < k
      · simp [insert, get?, hk, hlt]
      · by_cases h : k = key
        · subst h
          simp [insert, get?, hk, hlt, Ne.symm hk]
        · simp [insert, get?, hk, hlt, h, ih]

theorem get?_eq_none {key : String} {fields : Fields α} (h : key ∉ fields.map Prod.fst) :
    get? key fields = none := by
  induction fields with
  | nil => rfl
  | cons field rest ih =>
    have hfirst : key ≠ field.1 := List.ne_of_not_mem_cons h
    rw [get?, if_neg (Ne.symm hfirst), ih (List.not_mem_of_not_mem_cons h)]

theorem get?_merge (key : String) {changes : Fields α} (distinct : (changes.map Prod.fst).Nodup)
    (fields : Fields α) :
    get? key (merge fields changes) = (get? key changes).or (get? key fields) := by
  induction changes generalizing fields with
  | nil => rfl
  | cons change rest ih =>
    obtain ⟨name, value⟩ := change
    obtain ⟨hnew, hrest⟩ := List.nodup_cons.1 distinct
    have hmerge : merge fields ((name, value) :: rest) = merge (insert name value fields) rest := rfl
    rw [hmerge, ih hrest, get?_insert, get?]
    by_cases hname : name = key
    · subst hname
      rw [if_pos rfl, if_pos rfl, get?_eq_none hnew]
      rfl
    · rw [if_neg hname, if_neg hname]

/-! ## The order of the names -/

/-- Every name comes before the next one. -/
def IsAscending (fields : Fields α) : Prop :=
  (fields.map Prod.fst).Pairwise (· < ·)

instance (fields : Fields α) : Decidable (IsAscending fields) :=
  inferInstanceAs (Decidable (List.Pairwise _ _))

theorem isAscending_cons {field : String × α} {fields : Fields α} :
    IsAscending (field :: fields) ↔ (∀ f ∈ fields, field.1 < f.1) ∧ IsAscending fields := by
  unfold IsAscending
  rw [List.map_cons, List.pairwise_cons]
  simp

theorem IsAscending.nodup {fields : Fields α} (h : IsAscending fields) :
    (fields.map Prod.fst).Nodup :=
  List.Pairwise.imp String.ne_of_lt h

theorem mem_insert {field : String × α} {name : String} {value : α} {fields : Fields α}
    (h : field ∈ insert name value fields) : field = (name, value) ∨ field ∈ fields := by
  induction fields with
  | nil => exact .inl (List.mem_singleton.1 h)
  | cons first rest ih =>
    obtain ⟨key, old⟩ := first
    rw [insert] at h
    split at h
    · next heq =>
      subst heq
      exact (List.mem_cons.1 h).imp_right (List.mem_cons_of_mem _)
    · split at h
      · exact List.mem_cons.1 h
      · rcases List.mem_cons.1 h with rfl | hrest
        · exact .inr List.mem_cons_self
        · exact (ih hrest).imp_right (List.mem_cons_of_mem _)

theorem isAscending_insert {name : String} {value : α} {fields : Fields α}
    (h : IsAscending fields) : IsAscending (insert name value fields) := by
  induction fields with
  | nil => exact List.pairwise_singleton _ _
  | cons first rest ih =>
    obtain ⟨key, old⟩ := first
    obtain ⟨hfirst, hrest⟩ := isAscending_cons.1 h
    rw [insert]
    split
    · exact isAscending_cons.2 ⟨hfirst, hrest⟩
    · next hne =>
      split
      · next hlt =>
        refine isAscending_cons.2 ⟨fun f hf => ?_, h⟩
        rcases List.mem_cons.1 hf with rfl | hf
        · exact hlt
        · exact String.lt_trans hlt (hfirst f hf)
      · next hlt =>
        have hafter : key < name := Std.lt_of_le_of_ne (String.not_lt.1 hlt) hne
        refine isAscending_cons.2 ⟨fun f hf => ?_, ih hrest⟩
        rcases mem_insert hf with rfl | hf
        · exact hafter
        · exact hfirst f hf

theorem mem_merge {field : String × α} {fields changes : Fields α}
    (h : field ∈ merge fields changes) : field ∈ changes ∨ field ∈ fields := by
  induction changes generalizing fields with
  | nil => exact .inr h
  | cons change rest ih =>
    rcases ih h with hrest | hfields
    · exact .inl (List.mem_cons_of_mem _ hrest)
    · rcases mem_insert hfields with rfl | hold
      · exact .inl List.mem_cons_self
      · exact .inr hold

theorem isAscending_merge {fields changes : Fields α} (h : IsAscending fields) :
    IsAscending (merge fields changes) := by
  induction changes generalizing fields with
  | nil => exact h
  | cons change rest ih => exact ih (isAscending_insert h)

end Fields

end Paydesk
