import Paydesk.Fields
import Paydesk.Json.Number

/-!
# JSON values

The values of interchange documents. The fields of an object are kept in the order of their names,
which is also the order in which they are written (`IsOrdered`).
-/

namespace Paydesk

/-- A value of a document. -/
inductive Json where
  | null
  | bool (b : Bool)
  | number (n : Json.Number)
  | string (s : String)
  | array (items : List Json)
  | object (fields : List (String × Json))

namespace Json

instance : Inhabited Json := ⟨.null⟩

mutual

/-- Equality of values, which is decided part by part. -/
def beq : Json → Json → Bool
  | .null, .null => true
  | .bool a, .bool b => a == b
  | .number a, .number b => a == b
  | .string a, .string b => a == b
  | .array a, .array b => beqItems a b
  | .object a, .object b => beqFields a b
  | _, _ => false

def beqItems : List Json → List Json → Bool
  | [], [] => true
  | a :: as, b :: bs => beq a b && beqItems as bs
  | _, _ => false

def beqFields : List (String × Json) → List (String × Json) → Bool
  | [], [] => true
  | (k, a) :: as, (l, b) :: bs => k == l && beq a b && beqFields as bs
  | _, _ => false

end

instance : BEq Json := ⟨beq⟩

/-- An object whose fields are given in any order. -/
def record (fields : List (String × Json)) : Json :=
  .object (Fields.ofList fields)

def int (i : Int) : Json :=
  .number (.int i)

def float (x : Binary64) : Json :=
  .number (.float x)

/-- A text or null. -/
def optional {α : Type} (f : α → Json) : Option α → Json
  | none => .null
  | some a => f a

/-- A field that is left out when it has no value. -/
def present {α : Type} (name : String) (f : α → Json) : Option α → List (String × Json)
  | none => []
  | some a => [(name, f a)]

/-- The value of a field, if the value is an object that has it. -/
def field? (name : String) : Json → Option Json
  | .object fields => Fields.get? name fields
  | _ => none

/-- The text, if the value is one. -/
def string? : Json → Option String
  | .string s => some s
  | _ => none

/-- The truth value, if the value is one. -/
def bool? : Json → Option Bool
  | .bool b => some b
  | _ => none

/-! ## The order of fields -/

mutual

/-- Every object in the value has its fields in the order of their names, none of them twice. -/
def IsOrdered : Json → Prop
  | .array items => ItemsOrdered items
  | .object fields => Fields.IsAscending fields ∧ FieldsOrdered fields
  | _ => True

/-- Every item is ordered. -/
def ItemsOrdered : List Json → Prop
  | [] => True
  | item :: items => IsOrdered item ∧ ItemsOrdered items

/-- The value of every field is ordered. -/
def FieldsOrdered : List (String × Json) → Prop
  | [] => True
  | (_, value) :: fields => IsOrdered value ∧ FieldsOrdered fields

end

theorem fieldsOrdered_iff {fields : List (String × Json)} :
    FieldsOrdered fields ↔ ∀ field ∈ fields, IsOrdered field.2 := by
  induction fields with
  | nil => simp [FieldsOrdered]
  | cons first rest ih =>
    obtain ⟨name, value⟩ := first
    rw [FieldsOrdered, ih, List.forall_mem_cons]

theorem isOrdered_nil : IsOrdered (.object []) :=
  ⟨List.Pairwise.nil, trivial⟩

theorem isOrdered_insert {fields : Fields Json} (h : IsOrdered (.object fields)) (name : String)
    {value : Json} (hvalue : IsOrdered value) :
    IsOrdered (.object (Fields.insert name value fields)) := by
  refine ⟨Fields.isAscending_insert h.1, fieldsOrdered_iff.2 fun field hfield => ?_⟩
  rcases Fields.mem_insert hfield with rfl | hold
  · exact hvalue
  · exact fieldsOrdered_iff.1 h.2 field hold

theorem isOrdered_merge {fields changes : Fields Json} (h : IsOrdered (.object fields))
    (hchanges : IsOrdered (.object changes)) :
    IsOrdered (.object (Fields.merge fields changes)) := by
  refine ⟨Fields.isAscending_merge h.1, fieldsOrdered_iff.2 fun field hfield => ?_⟩
  rcases Fields.mem_merge hfield with hnew | hold
  · exact fieldsOrdered_iff.1 hchanges.2 field hnew
  · exact fieldsOrdered_iff.1 h.2 field hold

end Json

end Paydesk
