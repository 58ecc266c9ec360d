import Paydesk.Service.Request
import Paydesk.Text.Split
import Paydesk.Web.Percent

/-!
# Query strings

The filters of a list as they stand after the question mark of an address. Unknown names are passed
over; a filter that is given twice and a number that is none spoil the whole query.
-/

namespace Paydesk.Web

/-- The name and the value of one part of a query. -/
def queryPair (part : List Char) : String × String :=
  match Text.cut? '=' part with
  | some (name, value) => (formDecode name, formDecode value)
  | none => (formDecode part, "")

/-- The names and values of a query in order. -/
def queryPairs (query : List Char) : List (String × String) :=
  ((Text.splitOn '&' query).filter fun part => !part.isEmpty).map queryPair

/-- The value of a name that is given at most once. -/
def single? (pairs : List (String × String)) (name : String) : Option (Option String) :=
  match pairs.filter fun pair => pair.1 == name with
  | [] => some none
  | [pair] => some (some pair.2)
  | _ => none

def queryNumber? : Option String → Option (Option Nat)
  | none => some none
  | some s => (Text.readNat Text.maxWord s).toOption.map some

/-- The list that a query asks for. -/
def listRequest? (query : List Char) : Option ListRequest := do
  let pairs := queryPairs query
  let status ← single? pairs "status"
  let provider ← single? pairs "provider"
  let order ← single? pairs "orderId"
  let limit ← single? pairs "limit"
  let offset ← single? pairs "offset"
  let limit ← queryNumber? limit
  let offset ← queryNumber? offset
  some ⟨status, provider, order, limit, offset⟩

end Paydesk.Web
