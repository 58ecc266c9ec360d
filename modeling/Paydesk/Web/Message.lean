import Paydesk.Address.Escape
import Paydesk.Json.Printer
import Paydesk.Text.Blank
import Paydesk.Web.MediaType

/-!
# Requests and responses

What comes in over HTTP and what goes out.
-/

namespace Paydesk.Web

/-- A request: its address is path and query, perhaps behind a scheme and the name of a server, and
a header that was not sent is missing. -/
structure Request where
  method : String
  address : String
  tenant : Option String
  contentType : Option String
  body : List UInt8

/-- What a response holds. -/
inductive Body where
  | empty
  | text (s : String)
  | json (j : Json)

structure Response where
  status : Nat
  body : Body

namespace Request

/-- An address from its path on, without a scheme and the name of a server. -/
def localPart (cs : List Char) : List Char :=
  match cs.dropWhile Address.isSchemeChar with
  | ':' :: '/' :: '/' :: rest => rest.dropWhile fun c => !(c = '/' || c = '?')
  | _ => cs

/-- What the server is asked for: path and query, without what is meant for the caller's own
side. -/
def target (r : Request) : List Char :=
  localPart (r.address.toList.takeWhile fun c => c != '#')

def path (r : Request) : List Char :=
  r.target.takeWhile fun c => c != '?'

/-- What stands after the question mark of the address. -/
def query (r : Request) : List Char :=
  (r.target.dropWhile fun c => c != '?').drop 1

def tenantName? (r : Request) : Option String := do
  let value ← r.tenant
  let name := Text.trim value
  if value.toList.all isHeaderChar ∧ !name.isEmpty then some name else none

end Request

namespace Response

def ofJson (status : Nat) (j : Json) : Response :=
  ⟨status, .json j⟩

def bare (status : Nat) : Response :=
  ⟨status, .empty⟩

def ofError (status : Nat) (message : String) : Response :=
  .ofJson status (.record [("error", .string message), ("code", .int status)])

def headOnly (r : Response) : Response :=
  { r with body := .empty }

end Response

end Paydesk.Web
