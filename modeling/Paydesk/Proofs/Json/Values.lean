import Paydesk.Json.Scan
import Paydesk.Proofs.Json.Fields

/-!
# Values and their documents

The document of a value in memory is that value again (`Doc.toJson?_ofJson`), at any depth that is
allowed for and if every object in it has its fields in order (`IsOrdered`), as values that are read
or written always have. What is asked of all parts of a value (`IsOrdered`, `depth`, `numbers`) is
asked field by field, so it carries over to an object that is written from fields in any order.
-/

namespace Paydesk.Json

/-! ## The parts of a value -/

mutual

/-- The number of containers inside one another. -/
def depth : Json → Nat
  | .array items => depthOfItems items + 1
  | .object fields => depthOfFields fields + 1
  | _ => 0

def depthOfItems : List Json → Nat
  | [] => 0
  | item :: items => max (depth item) (depthOfItems items)

def depthOfFields : List (String × Json) → Nat
  | [] => 0
  | (_, value) :: fields => max (depth value) (depthOfFields fields)

end

mutual

/-- All numbers in the value. -/
def numbers : Json → List Number
  | .number n => [n]
  | .array items => numbersOfItems items
  | .object fields => numbersOfFields fields
  | _ => []

def numbersOfItems : List Json → List Number
  | [] => []
  | item :: items => numbers item ++ numbersOfItems items

def numbersOfFields : List (String × Json) → List Number
  | [] => []
  | (_, value) :: fields => numbers value ++ numbersOfFields fields

end

/-! ## Fields in any order -/

theorem depthOfFields_le_iff {fields : List (String × Json)} {n : Nat} :
    depthOfFields fields ≤ n ↔ ∀ field ∈ fields, depth field.2 ≤ n := by
  induction fields with
  | nil => simp [depthOfFields]
  | cons first rest ih =>
    obtain ⟨name, value⟩ := first
    rw [depthOfFields, Nat.max_le, ih, List.forall_mem_cons]

theorem mem_numbersOfFields {fields : List (String × Json)} {n : Number} :
    n ∈ numbersOfFields fields ↔ ∃ field ∈ fields, n ∈ numbers field.2 := by
  induction fields with
  | nil => simp [numbersOfFields]
  | cons first rest ih =>
    obtain ⟨name, value⟩ := first
    rw [numbersOfFields, List.mem_append, ih, List.exists_mem_cons_iff]

theorem isOrdered_record {pairs : List (String × Json)} (h : ∀ field ∈ pairs, IsOrdered field.2) :
    IsOrdered (record pairs) :=
  ⟨Fields.isAscending_ofList pairs,
    fieldsOrdered_iff.2 fun field hfield => h field (Fields.mem_ofList hfield)⟩

theorem depth_record_le {pairs : List (String × Json)} {n : Nat}
    (h : ∀ field ∈ pairs, depth field.2 ≤ n) : depth (record pairs) ≤ n + 1 :=
  Nat.succ_le_succ <|
    depthOfFields_le_iff.2 fun field hfield => h field (Fields.mem_ofList hfield)

theorem mem_numbers_record {pairs : List (String × Json)} {n : Number}
    (h : n ∈ numbers (record pairs)) : ∃ field ∈ pairs, n ∈ numbers field.2 := by
  obtain ⟨field, hfield, hn⟩ := mem_numbersOfFields.1 h
  exact ⟨field, Fields.mem_ofList hfield, hn⟩

/-! ## Documents -/

namespace Doc

theorem isOpen_ofJson (j : Json) : (ofJson j).isOpen = false := by
  cases j <;> simp [ofJson, isOpen]

mutual

/-- The document of an ordered value is that value. -/
theorem toJson?_ofJson {n : Nat} : {j : Json} → IsOrdered j → depth j ≤ n →
    toJson? n (ofJson j) = some j
  | .null, _, _ => by simp [ofJson, toJson?]
  | .bool b, _, _ => by simp [ofJson, toJson?]
  | .number i, _, _ => by simp [ofJson, toJson?]
  | .string s, _, _ => by simp [ofJson, toJson?]
  | .array items, hordered, hdepth => by
    obtain ⟨m, rfl⟩ := Nat.exists_eq_add_of_le' (Nat.le_trans (Nat.le_add_left 1 _) hdepth)
    rw [ofJson, toJson?, toItems?_ofItems hordered (Nat.le_of_succ_le_succ hdepth)]
    rfl
  | .object fields, hordered, hdepth => by
    obtain ⟨m, rfl⟩ := Nat.exists_eq_add_of_le' (Nat.le_trans (Nat.le_add_left 1 _) hdepth)
    rw [ofJson, toJson?, toFields?_ofFields hordered.2 (Nat.le_of_succ_le_succ hdepth)]
    exact congrArg (fun fields => some (Json.object fields)) hordered.1.ofList_eq

theorem toItems?_ofItems {n : Nat} : {items : List Json} → ItemsOrdered items →
    depthOfItems items ≤ n → toItems? n (ofItems items) = some items
  | [], _, _ => rfl
  | item :: items, hordered, hdepth => by
    obtain ⟨hitem, hitems⟩ := Nat.max_le.1 hdepth
    rw [ofItems, toItems?, toJson?_ofJson hordered.1 hitem, toItems?_ofItems hordered.2 hitems]
    rfl

theorem toFields?_ofFields {n : Nat} : {fields : List (String × Json)} → {old : Fields Json} →
    FieldsOrdered fields → depthOfFields fields ≤ n →
    toFields? n (ofFields fields) old = some (Fields.merge old fields)
  | [], _, _, _ => rfl
  | (name, value) :: fields, old, hordered, hdepth => by
    obtain ⟨hvalue, hfields⟩ := Nat.max_le.1 hdepth
    have hrest : toFields? n (ofFields fields) (Fields.insert name value old) =
        some (Fields.merge old ((name, value) :: fields)) :=
      toFields?_ofFields hordered.2 hfields
    rw [ofFields, toFields?, toJson?_ofJson hordered.1 hvalue]
    exact hrest

end

end Doc

end Paydesk.Json
