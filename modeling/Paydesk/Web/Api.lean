import Paydesk.Document.Payments
import Paydesk.Service.Desk
import Paydesk.Web.MediaType
import Paydesk.Web.Message
import Paydesk.Web.Query
import Paydesk.Web.Route
import Paydesk.Wire.Requests

/-!
# The HTTP interface

Requests are answered by the use cases of the service. The tenant is looked at before anything else,
then the path, the method, the name of the payment, the body or the query, and what that name means.
A failure is answered with the code of its kind; a refund is always answered with its outcome.
-/

namespace Paydesk.Web

variable {γ π : Type}

/-! ## Refusals before the service -/

def unauthorized : Response :=
  .ofError 401 "Missing or blank X-Tenant-Id header"

/-- The name of the payment in the path is no text. -/
def invalidUrl : Response := ⟨400, .text "Invalid URL"⟩

/-- The body is not announced as a document. -/
def unsupportedBody : Response :=
  ⟨415, .text "Expected request with \x60Content-Type: application/json\x60"⟩

def largeBody : Response := ⟨413, .text "Failed to buffer the request body"⟩

def badQuery : Response := ⟨400, .text "Failed to deserialize query string"⟩

/-- The body cannot be read: its text is malformed, or it is not the document asked for. -/
def badBody : Wire.Fault → Response
  | .malformed => ⟨400, .text "Failed to parse the request body as JSON"⟩
  | _ => ⟨422, .text "Failed to deserialize the JSON body into the target type"⟩

/-! ## Parts of requests -/

/-- The most bytes of a body. -/
def maxBody : Nat := 2097152

/-- The document in a body. Its kind is looked at first, then its size. -/
def body {α : Type} (record : Wire.Record α) (r : Request) : Except Response α :=
  match r.contentType with
  | none => .error unsupportedBody
  | some type =>
    if !isJsonType type then .error unsupportedBody
    else if maxBody < r.body.length then .error largeBody
    else (record.parseBytes r.body).mapError badBody

/-- The document in a body that may be missing; it is exactly if no content type is sent. -/
def optionalBody {α : Type} (record : Wire.Record α) (r : Request) : Except Response (Option α) :=
  match r.contentType with
  | none => .ok none
  | some _ => (body record r).map some

def idText (segment : List Char) : Except Response String :=
  match percentDecode? segment with
  | some text => .ok text
  | none => .error invalidUrl

def failure (e : ServiceError) : Response :=
  .ofError e.kind.statusCode e.message

def paymentId (text : String) : Except Response PaymentId :=
  (PaymentId.read text).mapError fun why => failure (.ofInvalid why)

def view (p : Payment) : Json :=
  (PaymentView.ofPayment p).toJson

/-! ## Answers -/

/-- Answers with what was read from the request, or with the refusal. -/
def withParts {α : Type} (parts : Except Response α) (act : α → Workflow γ π Response) :
    Workflow γ π Response :=
  match parts with
  | .ok a => act a
  | .error response => .done response

/-- Runs a use case and answers with its result. -/
def answer {α : Type} (status : Nat) (encode : α → Json) (task : Task γ π α) :
    Workflow γ π Response := do
  match ← task.run with
  | .ok a => return .ofJson status (encode a)
  | .error e => return failure e

/-- Answers a command whose request is read from the body. -/
def commandOn {α : Type} (id : String) (parts : Except Response α)
    (task : PaymentId → α → Task γ π Payment) : Workflow γ π Response :=
  withParts (parts.bind fun a => (paymentId id).map fun id => (id, a)) fun (id, a) =>
    answer 200 view (task id a)

def refund (desk : Desk γ π) (tenant id : String) (r : Request) : Workflow γ π Response :=
  withParts (optionalBody RefundBody.wire r) fun body => do
    let outcome ← desk.refund
      { payment := id
        tenant := tenant
        amount := body.bind RefundBody.amount
        reason := body.bind RefundBody.reason }
    return .ofJson 200 outcome.toJson

def command (desk : Desk γ π) (tenant id : String) (r : Request) :
    Command → Workflow γ π Response
  | .process => commandOn id (.ok ()) fun id _ => desk.startProcessing tenant id
  | .complete => commandOn id (body CompleteRequest.wire r) (desk.complete tenant)
  | .fail => commandOn id (body FailRequest.wire r) (desk.fail tenant)
  | .cancel =>
    commandOn id (optionalBody CancelRequest.wire r) fun id request =>
      desk.cancel tenant id (request.getD ⟨none⟩)
  | .refund => refund desk tenant id r

def create (desk : Desk γ π) (tenant : String) (r : Request) : Workflow γ π Response :=
  withParts (body CreateRequest.wire r) fun request =>
    answer 201 view (desk.create tenant request)

def list (tenant : String) (r : Request) : Workflow γ π Response :=
  match listRequest? r.query with
  | none => .done badQuery
  | some request => answer 200 (fun ps => .array (ps.map view)) (Desk.list tenant request)

def get (tenant id : String) : Workflow γ π Response :=
  commandOn id (.ok ()) fun id _ => Desk.get tenant id

inductive Method where
  | get
  | post

/-- Answers a request by what its path names and by its method. -/
def serve (desk : Desk γ π) (tenant : String) (r : Request) :
    Route → Method → Workflow γ π Response
  | .health, .get => .done (.ofJson 200 (.record [("status", .string "healthy")]))
  | .document, .get => .done (.ofJson 200 Document.payments)
  | .payments, .get => list tenant r
  | .payments, .post => create desk tenant r
  | .payment segment, .get => withParts (idText segment) (get tenant)
  | .command segment name, .post =>
    withParts (idText segment) fun id => command desk tenant id r name
  | _, _ => .done (.bare 405)

/-- Answers a request whose tenant is known, by the method as it is spelled. A request for the head
of an answer is one for the answer, without its content. -/
def dispatch (desk : Desk γ π) (tenant : String) (r : Request) : Workflow γ π Response :=
  match Route.ofPath? r.path with
  | none => .done (.bare 404)
  | some route =>
    if r.method == "GET" then serve desk tenant r route .get
    else if r.method == "POST" then serve desk tenant r route .post
    else if r.method == "HEAD" then do
      return (← serve desk tenant r route .get).headOnly
    else .done (.bare 405)

def respond (desk : Desk γ π) (r : Request) : Workflow γ π Response :=
  if Route.isPublic r.path then dispatch desk "" r
  else
    match r.tenantName? with
    | none => .done unauthorized
    | some tenant => dispatch desk tenant r

end Paydesk.Web
