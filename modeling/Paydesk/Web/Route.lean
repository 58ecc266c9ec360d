import Paydesk.Text.Split
import Paydesk.Web.Percent

/-!
# Routes

What a path names. A payment is named by one segment of the path that is not empty.
-/

namespace Paydesk.Web

inductive Command where
  | process
  | complete
  | fail
  | cancel
  | refund
  deriving DecidableEq

/-- What a path names. -/
inductive Route where
  | health
  | document
  | payments
  | payment (segment : List Char)
  | command (segment : List Char) (command : Command)

namespace Route

def command? (name : List Char) : Option Command :=
  if name = "process".toList then some .process
  else if name = "complete".toList then some .complete
  else if name = "fail".toList then some .fail
  else if name = "cancel".toList then some .cancel
  else if name = "refund".toList then some .refund
  else none

/-- The path of the check that the service is well. -/
def healthPath : List Char := "/health".toList

/-- The path of the description of the interface. -/
def documentPath : List Char := "/api-docs/openapi.json".toList

/-- What stands below the path of all payments. -/
def below? : List (List Char) → Option Route
  | [id] => if id.isEmpty then none else some (.payment id)
  | [id, name] => if id.isEmpty then none else (command? name).map (.command id)
  | _ => none

def ofPath? (path : List Char) : Option Route :=
  if path = healthPath then some .health
  else if path = documentPath then some .document
  else
    match Text.splitOn '/' path with
    | root :: first :: second :: rest =>
      if root.isEmpty ∧ first = "api".toList ∧ second = "payments".toList then
        if rest.isEmpty then some .payments else below? rest
      else none
    | _ => none

/-- A path that is served without a tenant. -/
def isPublic (path : List Char) : Bool :=
  path == healthPath || path == documentPath

end Route

end Paydesk.Web
