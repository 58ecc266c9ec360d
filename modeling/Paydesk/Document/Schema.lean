import Paydesk.Json.Basic

/-!
# Description of an interface

The parts of the document that describes an interface for callers: the shape of records, the
parameters and answers of each operation, and how they are written.
-/

namespace Paydesk.Document

/-- A field of a record. One that may be missing may also be null. -/
structure Property where
  name : String
  type : String
  isOptional : Bool := false
  format : Option String := none
  minimum : Option Int := none
  example? : Option Json := none

namespace Property

/-- The names of the types of a value. -/
def typeJson (type : String) (isOptional : Bool) : Json :=
  if isOptional then .array [.string type, .string "null"] else .string type

/-- The shape of the field's value. -/
def schema (p : Property) : Json :=
  .record <|
    ("type", typeJson p.type p.isOptional) ::
      (Json.present "format" .string p.format ++ Json.present "minimum" .int p.minimum ++
        Json.present "example" id p.example?)

end Property

/-- A record that is sent or answered. -/
structure Schema where
  name : String
  description : String
  properties : List Property

namespace Schema

/-- The names of the fields that have to be there. -/
def required (s : Schema) : List String :=
  (s.properties.filter fun p => !p.isOptional).map Property.name

def toJson (s : Schema) : Json :=
  .record <|
    [("type", .string "object"), ("description", .string s.description),
      ("properties", .record (s.properties.map fun p => (p.name, p.schema)))] ++
    if s.required.isEmpty then [] else [("required", .array (s.required.map .string))]

/-- A reference to a record by its name. -/
def reference (name : String) : Json :=
  .record [("$ref", .string ("#/components/schemas/" ++ name))]

end Schema

/-- Where a parameter stands in a request. -/
inductive Place where
  | path
  | query

/-- A parameter of an operation. One in the path has to be given; none of them is null. -/
structure Parameter where
  place : Place
  property : Property
  description : String

def Parameter.toJson (p : Parameter) : Json :=
  let (place, required) := match p.place with
    | .path => ("path", true)
    | .query => ("query", false)
  .record [("name", .string p.property.name), ("in", .string place),
    ("description", .string p.description), ("required", .bool required),
    ("schema", { p.property with isOptional := false }.schema)]

/-- What an answer holds. -/
inductive Content where
  | none
  | one (schema : String)
  | many (schema : String)
  | sample (value : Json)

/-- The description of what an answer holds. -/
def Content.media : Content → Option Json
  | .none => .none
  | .one schema => some (.record [("schema", Schema.reference schema)])
  | .many schema =>
    some (.record [("schema",
      .record [("type", .string "array"), ("items", Schema.reference schema)])])
  | .sample value => some (.record [("schema", .record []), ("example", value)])

/-- The content of a message in the only format there is. -/
def mediaJson (media : Json) : Json :=
  .record [("application/json", media)]

structure Answer where
  status : Nat
  description : String
  content : Content := .none

def Answer.toJson (a : Answer) : Json :=
  .record <| ("description", .string a.description) ::
    Json.present "content" mediaJson a.content.media

structure Operation where
  path : String
  method : String
  id : String
  summary : String
  tag : String
  parameters : List Parameter := []
  body : Option String := none
  answers : List Answer
  isPublic : Bool := false

namespace Operation

/-- The description of the body of a request. -/
def bodyJson (schema : String) : Json :=
  .record [("content", mediaJson (.record [("schema", Schema.reference schema)])),
    ("required", .bool true)]

def toJson (o : Operation) : Json :=
  .record <|
    [("tags", .array [.string o.tag]), ("summary", .string o.summary),
      ("operationId", .string o.id),
      ("responses", .record (o.answers.map fun a => (Text.natText a.status, a.toJson)))] ++
    (if o.parameters.isEmpty then []
      else [("parameters", .array (o.parameters.map Parameter.toJson))]) ++
    Json.present "requestBody" bodyJson o.body ++
    (if o.isPublic then [] else [("security", .array [.record [("tenant", .array [])]])])

end Operation

/-- The operations of each path. -/
def pathsJson (operations : List Operation) : Json :=
  .record <| operations.map fun o =>
    (o.path, .record ((operations.filter fun other => other.path == o.path).map fun other =>
      (other.method, other.toJson)))

end Paydesk.Document
