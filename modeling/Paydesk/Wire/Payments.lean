import Paydesk.Payment.Basic
import Paydesk.Wire.Record
import Paydesk.Wire.Requests

/-!
# Stored payments and events as documents

The stored part of a payment is written with all its fields, null for those without a value. An
event carries the name of its kind of change in the field `type`, which also decides the names of
the others: a refund has a name of its own for the payment's amount, and each kind has one for the
time at which it happened.
-/

namespace Paydesk

open Wire Record

/-- The document of an amount: its decimal text. -/
def Amount.toJson (a : Amount) : Json :=
  .string a.value.toText

namespace Snapshot

/-- The fields of a stored payment whose metadata have at most `depth` containers inside one another.
Only a text sets a bound; a value in memory may be of any depth. -/
def wireWithin (depth : Nat) : Record Snapshot :=
  mk <$> required "id" paymentId
    <*> required "tenantId" text
    <*> required "providerType" Wire.provider
    <*> required "amount" Wire.amount
    <*> required "currency" Wire.currency
    <*> required "status" Wire.status
    <*> required "orderId" text
    <*> optional "transactionId" text
    <*> optional "externalReferenceNumber" text
    <*> required "metadata" (fieldsWithin depth)
    <*> optional "refundedAmount" Wire.amount
    <*> optional "failureReason" text
    <*> required "createdAt" instant
    <*> required "updatedAt" instant
    <*> optional "completedAt" instant
    <*> optional "failedAt" instant
    <*> optional "refundedAt" instant
    <*> required "version" word

/-- The fields of a stored payment that is read from a text. -/
def wire : Record Snapshot :=
  wireWithin (Json.maxDepth - 1)

def toJson (s : Snapshot) : Json :=
  .record
    [("id", .string s.id.toText), ("tenantId", .string s.tenant),
      ("providerType", s.provider.toJson), ("amount", s.amount.toJson),
      ("currency", s.currency.toJson), ("status", s.status.toJson),
      ("orderId", .string s.order), ("transactionId", .optional .string s.transaction),
      ("externalReferenceNumber", .optional .string s.reference),
      ("metadata", s.metadata.toJson),
      ("refundedAmount", .optional Amount.toJson s.refunded),
      ("failureReason", .optional .string s.reason), ("createdAt", s.createdAt.toJson),
      ("updatedAt", s.updatedAt.toJson), ("completedAt", .optional Instant.toJson s.completedAt),
      ("failedAt", .optional Instant.toJson s.failedAt),
      ("refundedAt", .optional Instant.toJson s.refundedAt), ("version", .int s.version)]

end Snapshot

namespace Event

def initiatedWire : Record Event :=
  (fun id tenant provider amount currency order time =>
      ⟨id, tenant, provider, amount, currency, order, time, .initiated⟩) <$>
    required "paymentId" paymentId
    <*> required "tenantId" text
    <*> required "providerType" Wire.provider
    <*> required "amount" Wire.amount
    <*> required "currency" Wire.currency
    <*> required "orderId" text
    <*> required "occurredAt" instant

def completedWire : Record Event :=
  (fun id tenant provider amount currency order transaction time =>
      ⟨id, tenant, provider, amount, currency, order, time, .completed transaction⟩) <$>
    required "paymentId" paymentId
    <*> required "tenantId" text
    <*> required "providerType" Wire.provider
    <*> required "amount" Wire.amount
    <*> required "currency" Wire.currency
    <*> required "orderId" text
    <*> required "transactionId" text
    <*> required "completedAt" instant

def failedWire : Record Event :=
  (fun id tenant provider amount currency order reason time =>
      ⟨id, tenant, provider, amount, currency, order, time, .failed reason⟩) <$>
    required "paymentId" paymentId
    <*> required "tenantId" text
    <*> required "providerType" Wire.provider
    <*> required "amount" Wire.amount
    <*> required "currency" Wire.currency
    <*> required "orderId" text
    <*> required "failureReason" text
    <*> required "failedAt" instant

def refundedWire : Record Event :=
  (fun id tenant provider amount refund currency order transaction isPartial time =>
      ⟨id, tenant, provider, amount, currency, order, time,
        .refunded refund transaction isPartial⟩) <$>
    required "paymentId" paymentId
    <*> required "tenantId" text
    <*> required "providerType" Wire.provider
    <*> required "originalAmount" Wire.amount
    <*> required "refundAmount" Wire.amount
    <*> required "currency" Wire.currency
    <*> required "orderId" text
    <*> optional "transactionId" text
    <*> required "isPartialRefund" truth
    <*> required "refundedAt" instant

/-- The fields of the event with a given name of its kind. -/
def wire? (tag : String) : Option (Record Event) :=
  if tag = "PaymentInitiated" then some initiatedWire
  else if tag = "PaymentCompleted" then some completedWire
  else if tag = "PaymentFailed" then some failedWire
  else if tag = "PaymentRefunded" then some refundedWire
  else none

/-- Reads the fields of an event of the kind that a document names. -/
def ofTagged (tag rest : Json) : Except Fault Event :=
  match tag with
  | .string name =>
    match wire? name with
    | some record => record.read (Json.Doc.ofJson rest)
    | none => .error .shape
  | _ => .error .shape

/-- Reads an event; its kind is looked up before all other fields. In an array it comes first. -/
def ofJson : Json → Except Fault Event
  | .object fields =>
    match Fields.get? "type" fields with
    | some tag => ofTagged tag (.object (fields.filter fun field => field.1 != "type"))
    | none => .error .shape
  | .array (tag :: items) => ofTagged tag (.array items)
  | _ => .error .shape

/-- The fields that depend on the kind of change. -/
def changeFields (e : Event) : List (String × Json) :=
  match e.change with
  | .initiated =>
    [("amount", e.amount.toJson), ("occurredAt", e.occurredAt.toJson)]
  | .completed transaction =>
    [("amount", e.amount.toJson), ("transactionId", .string transaction),
      ("completedAt", e.occurredAt.toJson)]
  | .failed reason =>
    [("amount", e.amount.toJson), ("failureReason", .string reason),
      ("failedAt", e.occurredAt.toJson)]
  | .refunded refund transaction isPartial =>
    [("originalAmount", e.amount.toJson), ("refundAmount", refund.toJson),
      ("transactionId", .optional .string transaction), ("isPartialRefund", .bool isPartial),
      ("refundedAt", e.occurredAt.toJson)]

def toJson (e : Event) : Json :=
  .record <|
    [("type", .string e.change.tag), ("paymentId", .string e.payment.toText),
      ("tenantId", .string e.tenant), ("providerType", e.provider.toJson),
      ("currency", e.currency.toJson), ("orderId", .string e.order)] ++
    e.changeFields

end Event

end Paydesk
