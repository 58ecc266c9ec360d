import Paydesk.Wire.Reader

/-!
# Records

A record is read from an object by the names of its fields or from an array by their order. Unknown
names are passed over, but a name given twice is a fault, and so is a field that is missing without
a default. Fields are read in the order in which the document gives them; what is missing is noticed
after all that is there.
-/

namespace Paydesk.Wire

open Json (Doc)

/-- What is known of a field before its value is built. -/
structure FieldRule where
  name : String
  check : Doc → Except Fault Unit
  /-- The field may be left off at the end of an array. -/
  mayTrail : Bool

/-- The documents that were given for fields. -/
abbrev Given : Type := List (String × Doc)

/-- The rules of a record's fields in order, and how the record is built. -/
structure Record (α : Type) where
  rules : List FieldRule
  build : Given → Except Fault α

namespace Record

def nothing {α : Type} (a : α) : Record α :=
  ⟨[], fun _ => .ok a⟩

/-- The fields of two records one after the other. -/
def andThen {α β : Type} (f : Record (α → β)) (x : Record α) : Record β :=
  ⟨f.rules ++ x.rules, fun given => do
    let g ← f.build given
    let a ← x.build given
    return g a⟩

instance : Applicative Record where
  pure := nothing
  seq f x := andThen f (x ())

def ofField {α : Type} (name : String) (read : Reader α) (missing : Option α) (mayTrail : Bool) :
    Record α :=
  ⟨[⟨name, fun d => (read d).map fun _ => (), mayTrail⟩],
    fun given =>
      match Fields.get? name given, missing with
      | some d, _ => read d
      | none, some a => .ok a
      | none, none => .error .shape⟩

def required {α : Type} (name : String) (read : Reader α) : Record α :=
  ofField name read none false

/-- A field that may be null or missing from an object, but has its place in an array. -/
def optional {α : Type} (name : String) (read : Reader α) : Record (Option α) :=
  ofField name (nullable read) (some none) false

/-- A field that may be null or missing, also from the end of an array. -/
def defaulted {α : Type} (name : String) (read : Reader α) : Record (Option α) :=
  ofField name (nullable read) (some none) true

/-- Checks the entries of an object in order and collects those of known names. -/
def collect (rules : List FieldRule) : Given → List (Option String × Doc) → Except Fault Given
  | given, [] => .ok given
  | _, (none, _) :: _ => .error .malformed
  | given, (some name, d) :: rest =>
    match rules.find? fun rule => rule.name == name with
    | none => if d.isOpen then .error .malformed else collect rules given rest
    | some rule =>
      if (Fields.get? name given).isSome then .error .shape
      else (rule.check d).bind fun _ => collect rules ((name, d) :: given) rest

/-- Checks the items of an array in order and gives them the names of the fields. -/
def position : List FieldRule → List Doc → Bool → Except Fault Given
  | [], [], closed => if closed then .ok [] else .error .malformed
  | [], _ :: _, _ => .error .malformed
  | rule :: rules, d :: items, closed =>
    (rule.check d).bind fun _ =>
      (position rules items closed).map fun given => (rule.name, d) :: given
  | rules, [], closed =>
    if closed then
      if rules.all FieldRule.mayTrail then .ok [] else .error .shape
    else .error .malformed

def read {α : Type} (record : Record α) : Reader α
  | .object entries closed => do
    let given ← collect record.rules [] entries
    if closed then record.build given else .error .malformed
  | .array items closed => do
    let given ← position record.rules items closed
    record.build given
  | d => .error (mismatch d)

/-- Reads a record from what was scanned, if nothing follows the document. -/
def readAll {α : Type} (record : Record α) (scanned : Doc × Bool) : Except Fault α :=
  (record.read scanned.1).bind fun a => if scanned.2 then .ok a else .error .malformed

/-- Reads a record from a text that holds it and nothing else. -/
def parse {α : Type} (record : Record α) (s : String) : Except Fault α :=
  record.readAll (Doc.scan s)

/-- Reads a record from bytes that hold it and nothing else. -/
def parseBytes {α : Type} (record : Record α) (bytes : List UInt8) : Except Fault α :=
  record.readAll (Doc.scanBytes bytes)

end Record

end Paydesk.Wire
