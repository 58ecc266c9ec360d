import Paydesk.Json.Basic

/-!
# Metadata

Free-form data that callers attach to a payment. Each name stands for one value, and the names are in
order, as are those of all objects inside. What the service notes itself is a text.
-/

namespace Paydesk

/-- Values by name, in order to any depth. -/
structure Metadata where
  fields : Fields Json
  isOrdered : Json.IsOrdered (.object fields)

namespace Metadata

instance : BEq Metadata := ⟨fun a b => a.fields == b.fields⟩

def empty : Metadata := ⟨[], Json.isOrdered_nil⟩

def get? (m : Metadata) (name : String) : Option Json :=
  Fields.get? name m.fields

def write (m : Metadata) (name text : String) : Metadata where
  fields := Fields.insert name (.string text) m.fields
  isOrdered := Json.isOrdered_insert m.isOrdered name trivial

/-- Writes the second data over the first. -/
def merge (m changes : Metadata) : Metadata where
  fields := Fields.merge m.fields changes.fields
  isOrdered := Json.isOrdered_merge m.isOrdered changes.isOrdered

def toJson (m : Metadata) : Json :=
  .object m.fields

@[simp] theorem get?_write (m : Metadata) (name text key : String) :
    (m.write name text).get? key = if name = key then some (.string text) else m.get? key :=
  Fields.get?_insert ..

theorem get?_merge (m changes : Metadata) (name : String) :
    (m.merge changes).get? name = (changes.get? name).or (m.get? name) :=
  Fields.get?_merge name changes.isOrdered.1.nodup m.fields

end Metadata

end Paydesk
