import Paydesk.Service.Request
import Paydesk.Wire.Codes
import Paydesk.Wire.Record

/-!
# Requests and answers as documents

The names of the fields and how each is read and written. Fields without a value are left out.
-/

namespace Paydesk

open Wire Record

/-- The optional data of a caller. -/
def Wire.metadata : Record (Option Metadata) :=
  defaulted "metadata" fields

namespace CreateRequest

def wire : Record CreateRequest :=
  mk <$> required "providerType" text
    <*> required "amount" double
    <*> required "currency" text
    <*> required "orderId" text
    <*> defaulted "externalReferenceNumber" text
    <*> Wire.metadata

def toJson (r : CreateRequest) : Json :=
  .record <|
    [("providerType", .string r.provider), ("amount", .float r.amount),
      ("currency", .string r.currency), ("orderId", .string r.order)] ++
    Json.present "externalReferenceNumber" .string r.reference ++
    Json.present "metadata" Metadata.toJson r.metadata

end CreateRequest

namespace CompleteRequest

def wire : Record CompleteRequest :=
  mk <$> required "transactionId" text <*> Wire.metadata

def toJson (r : CompleteRequest) : Json :=
  .record <| ("transactionId", .string r.transaction) ::
    Json.present "metadata" Metadata.toJson r.metadata

end CompleteRequest

namespace FailRequest

def wire : Record FailRequest :=
  mk <$> required "reason" text <*> Wire.metadata

def toJson (r : FailRequest) : Json :=
  .record <| ("reason", .string r.reason) :: Json.present "metadata" Metadata.toJson r.metadata

end FailRequest

namespace CancelRequest

def wire : Record CancelRequest :=
  mk <$> defaulted "reason" text

def toJson (r : CancelRequest) : Json :=
  .record <| Json.present "reason" .string r.reason

end CancelRequest

namespace ListRequest

def wire : Record ListRequest :=
  mk <$> defaulted "status" text
    <*> defaulted "provider" text
    <*> defaulted "orderId" text
    <*> defaulted "limit" word
    <*> defaulted "offset" word

def toJson (r : ListRequest) : Json :=
  .record <|
    Json.present "status" .string r.status ++
    Json.present "provider" .string r.provider ++
    Json.present "orderId" .string r.order ++
    Json.present "limit" (fun n : Nat => Json.int n) r.limit ++
    Json.present "offset" (fun n : Nat => Json.int n) r.offset

end ListRequest

namespace RefundRequest

def wire : Record RefundRequest :=
  mk <$> required "paymentId" text
    <*> required "tenantId" text
    <*> defaulted "amount" double
    <*> defaulted "reason" text

def toJson (r : RefundRequest) : Json :=
  .record <|
    [("paymentId", .string r.payment), ("tenantId", .string r.tenant)] ++
    Json.present "amount" .float r.amount ++
    Json.present "reason" .string r.reason

end RefundRequest

namespace RefundBody

def wire : Record RefundBody :=
  mk <$> defaulted "amount" double <*> defaulted "reason" text

def toJson (r : RefundBody) : Json :=
  .record <| Json.present "amount" .float r.amount ++ Json.present "reason" .string r.reason

end RefundBody

/-- The text of an instant as a value. -/
def Instant.toJson (t : Instant) : Json :=
  .string t.toText

namespace PaymentView

def wire : Record PaymentView :=
  mk <$> required "id" paymentId
    <*> required "tenantId" text
    <*> required "providerType" Wire.provider
    <*> required "amount" double
    <*> required "currency" text
    <*> required "status" Wire.status
    <*> required "orderId" text
    <*> optional "transactionId" text
    <*> optional "externalReferenceNumber" text
    <*> required "metadata" fields
    <*> optional "refundedAmount" double
    <*> optional "failureReason" text
    <*> required "createdAt" instant
    <*> required "updatedAt" instant
    <*> optional "completedAt" instant
    <*> optional "failedAt" instant
    <*> optional "refundedAt" instant

def toJson (v : PaymentView) : Json :=
  .record <|
    [("id", .string v.id.toText), ("tenantId", .string v.tenant),
      ("providerType", v.provider.toJson), ("amount", .float v.amount),
      ("currency", .string v.currency), ("status", v.status.toJson),
      ("orderId", .string v.order), ("metadata", v.metadata.toJson),
      ("createdAt", v.createdAt.toJson), ("updatedAt", v.updatedAt.toJson)] ++
    Json.present "transactionId" .string v.transaction ++
    Json.present "externalReferenceNumber" .string v.reference ++
    Json.present "refundedAmount" .float v.refunded ++
    Json.present "failureReason" .string v.reason ++
    Json.present "completedAt" Instant.toJson v.completedAt ++
    Json.present "failedAt" Instant.toJson v.failedAt ++
    Json.present "refundedAt" Instant.toJson v.refundedAt

end PaymentView

namespace RefundOutcome

def wire : Record RefundOutcome :=
  mk <$> required "paymentId" text
    <*> required "status" Wire.status
    <*> required "refundAmount" double
    <*> required "isPartialRefund" truth
    <*> optional "providerResponse" (json (Json.maxDepth - 1))
    <*> optional "error" text

def toJson (r : RefundOutcome) : Json :=
  .record <|
    [("paymentId", .string r.payment), ("status", r.status.toJson),
      ("refundAmount", .float r.amount), ("isPartialRefund", .bool r.isPartial)] ++
    Json.present "providerResponse" id r.answer ++
    Json.present "error" .string r.error

end RefundOutcome

end Paydesk
