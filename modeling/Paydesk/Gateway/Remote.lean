import Paydesk.Gateway.Exchange
import Paydesk.Json.Scan
import Paydesk.Gateway.Order
import Paydesk.Service.Notice

/-!
# Remote providers

A provider that is reached over HTTP. Orders are posted to one address, and only an explicit
confirmation moves money: a success code with a document in which `success` is true. Any other
answer declines the refund, with the provider's own words where it has any.
-/

namespace Paydesk

/-- How to reach a provider. -/
structure RemoteProvider where
  provider : Provider
  baseUrl : String
  apiKey : Option String

/-- A request with a document to another server. -/
structure Post where
  url : String
  bearer : Option String
  body : Json

/-- The end of a request that no server takes. A key with a control character cannot be sent. -/
def Post.unreached (p : Post) : Exchange :=
  let isSendable (key : String) : Bool :=
    key.toList.all fun c => c = '\t' || (0x20 ≤ c.toNat && c.toNat != 0x7F)
  .unreached p.url (p.bearer.all isSendable)

namespace RemoteProvider

/-- A provider at an address; slashes at its end are dropped. -/
def ofUrl (provider : Provider) (url : String) (apiKey : Option String) : RemoteProvider where
  provider := provider
  baseUrl := String.ofList (url.toList.reverse.dropWhile fun c => c = '/').reverse
  apiKey := apiKey

def refundsUrl (p : RemoteProvider) : String :=
  p.baseUrl ++ "/refunds"

def post (p : RemoteProvider) (order : RefundOrder) : Post where
  url := p.refundsUrl
  bearer := p.apiKey
  body := order.toJson

/-- The provider's own words in its answer. -/
def words? (body : Option Json) : Option String :=
  match (body.bind (Json.field? "error")).bind Json.string? with
  | some text => some text
  | none => (body.bind (Json.field? "message")).bind Json.string?

/-- Whether the answer says that it was a success. -/
def flag? (body : Option Json) : Option Bool :=
  (body.bind (Json.field? "success")).bind Json.bool?

/-- What an answer means. -/
def replyOf (status : Nat) (body : Option Json) : RefundReply :=
  if Exchange.isSuccess status then
    match flag? body with
    | some true => .approved body
    | some false => .declined ((words? body).getD "Refund declined by provider") body
    | none => .declined "Provider did not confirm the refund" body
  else .declined ((words? body).getD ("HTTP " ++ Text.natText status)) body

/-- What the end of a request means. -/
def reply : Exchange → Except GatewayError RefundReply
  | .answered status body => .ok (replyOf status (Json.parse? body))
  | .timedOut => .error .timedOut
  | .failed text => .error (.transport text)

/-- What operators should know of the end of a request. -/
def notices : Exchange → List Notice
  | .answered status body =>
    if Exchange.isSuccess status ∧ flag? (Json.parse? body) = none then [.unconfirmed status]
    else []
  | _ => []

end RemoteProvider

end Paydesk
