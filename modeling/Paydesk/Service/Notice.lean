import Paydesk.Wire.Payments

/-!
# Notices

What the service writes down for its operators: a text that names what happened, and the values that
belong to it.
-/

namespace Paydesk

/-- Something that operators should know. -/
inductive Notice where
  | refundFailed (error : ServiceError)
  | refundDeclined (provider : Provider) (text : String)
  | unconfirmed (status : Nat)
  | publisherFailed (error : PublishError) (topic : String)
  | publishFailed (error : PublishError) (topic : String) (payment : PaymentId)
  | publishTimedOut (milliseconds : Nat) (topic : String) (payment : PaymentId)
  | eventTraced (event : Event)

namespace Notice

/-- What happened. -/
def message : Notice → String
  | .refundFailed _ => "refund failed"
  | .refundDeclined _ _ => "provider declined refund"
  | .unconfirmed _ => "provider answer carries no success flag"
  | .publisherFailed _ _ => "publisher failed"
  | .publishFailed _ _ _ => "failed to publish payment event"
  | .publishTimedOut _ _ _ => "timed out publishing payment event"
  | .eventTraced _ => "payment event"

/-- The values that belong to it. -/
def fields : Notice → List (String × Json)
  | .refundFailed error => [("error", .string error.message)]
  | .refundDeclined provider text =>
    [("provider", .string provider.code), ("error", .string text)]
  | .unconfirmed status => [("status", .int status)]
  | .publisherFailed error topic =>
    [("error", .string error.message), ("event_type", .string topic)]
  | .publishFailed error topic payment =>
    [("error", .string error.message), ("event_type", .string topic),
      ("payment_id", .string payment.toText)]
  | .publishTimedOut milliseconds topic payment =>
    [("timeout_ms", .int milliseconds), ("event_type", .string topic),
      ("payment_id", .string payment.toText)]
  | .eventTraced event =>
    [("event_type", .string event.topic), ("payment_id", .string event.payment.toText),
      ("tenant_id", .string event.tenant), ("payload", event.toJson)]

def toJson (n : Notice) : Json :=
  .record (("message", .string n.message) :: n.fields)

end Notice

end Paydesk
