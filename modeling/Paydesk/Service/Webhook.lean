import Paydesk.Gateway.Exchange
import Paydesk.Json.Printer
import Paydesk.Service.Workflow
import Paydesk.Signature

/-!
# Webhooks

A listener that is reached over HTTP. An event is posted in an envelope with a name of its own, and
the post is signed with a secret that the listener shares.
-/

namespace Paydesk

/-- Where events are posted, and how they are signed. -/
structure Webhook where
  url : String
  secret : String

/-- A signed post of a document. -/
structure SignedPost where
  url : String
  signature : String
  body : String

namespace Webhook

/-- The envelope of an event. -/
def envelope (id : Uuid) (event : Event) : Json :=
  .record [("id", .string id.toText), ("type", .string event.topic),
    ("occurredAt", event.occurredAt.toJson), ("data", event.toJson)]

def post (w : Webhook) (id : Uuid) (now : Instant) (event : Event) : SignedPost :=
  let body := (envelope id event).print
  { url := w.url
    signature := Signature.sign w.secret now.seconds (Text.Utf8.encode body)
    body := body }

/-- What the end of a post means. -/
def delivery (w : Webhook) : Exchange → Delivery
  | .answered status _ =>
    if Exchange.isSuccess status then .accepted
    else .refused (.transport ("HTTP " ++ Exchange.statusText status))
  | .timedOut => .refused (.transport ("timed out delivering to " ++ w.url))
  | .failed text => .refused (.transport text)

end Webhook

end Paydesk
