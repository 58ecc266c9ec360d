import Paydesk.Document.Schema

/-!
# The service's interface

The document that describes the interface of the service for its callers.
-/

namespace Paydesk.Document

/-! ## Records -/

/-- A sample value of a field. -/
def sample (s : String) : Option Json := some (.string s)

/-- A sample number of a field. -/
def sampleNumber (n : Nat) : Option Json := some (.float (Binary64.ofNat n))

def textProperty (name : String) (isOptional : Bool) (example? : Option Json) : Property :=
  { name := name, type := "string", isOptional := isOptional, example? := example? }

def numberProperty (name : String) (isOptional : Bool) (example? : Option Json) : Property :=
  { name := name, type := "number", isOptional := isOptional, format := some "double",
    example? := example? }

def countProperty (name : String) (example? : Option Json) : Property :=
  { name := name, type := "integer", isOptional := true, minimum := some 0,
    example? := example? }

def timeProperty (name : String) (isOptional : Bool) : Property :=
  { name := name, type := "string", isOptional := isOptional, format := some "date-time" }

/-- Data in the caller's own form. -/
def objectProperty (name : String) (isOptional : Bool) : Property :=
  { name := name, type := "object", isOptional := isOptional }

def createSchema : Schema where
  name := "CreatePaymentRequest"
  description :=
    "Request to create a new payment. The tenant comes from the caller's context."
  properties :=
    [textProperty "providerType" false (sample "PAGADITO"),
      numberProperty "amount" false (sampleNumber 100),
      textProperty "currency" false (sample "USD"),
      textProperty "orderId" false (sample "order-1001"),
      textProperty "externalReferenceNumber" true none, objectProperty "metadata" true]

def completeSchema : Schema where
  name := "CompletePaymentRequest"
  description := "Request to mark a payment as completed by the provider."
  properties :=
    [textProperty "transactionId" false (sample "tx-1"), objectProperty "metadata" true]

def failSchema : Schema where
  name := "FailPaymentRequest"
  description := "Request to mark a payment as failed."
  properties :=
    [textProperty "reason" false (sample "card declined"), objectProperty "metadata" true]

def cancelSchema : Schema where
  name := "CancelPaymentRequest"
  description := "Request to cancel a payment."
  properties := [textProperty "reason" true none]

def listSchema : Schema where
  name := "ListPaymentsQuery"
  description := "Filters for listing a tenant's payments."
  properties :=
    [textProperty "status" true (sample "COMPLETED"),
      textProperty "provider" true (sample "PAYPAL"), textProperty "orderId" true none,
      countProperty "limit" (some (.int 50)), countProperty "offset" none]

def paymentSchema : Schema where
  name := "PaymentResponse"
  description := "Read projection of a payment."
  properties :=
    [textProperty "id" false (sample "01890a5d-ac96-774b-bcce-b302099a8057"),
      textProperty "tenantId" false none, textProperty "providerType" false (sample "PAGADITO"),
      numberProperty "amount" false (sampleNumber 100),
      textProperty "currency" false (sample "USD"),
      textProperty "status" false (sample "COMPLETED"), textProperty "orderId" false none,
      textProperty "transactionId" true none, textProperty "externalReferenceNumber" true none,
      objectProperty "metadata" false, numberProperty "refundedAmount" true none,
      textProperty "failureReason" true none, timeProperty "createdAt" false,
      timeProperty "updatedAt" false, timeProperty "completedAt" true,
      timeProperty "failedAt" true, timeProperty "refundedAt" true]

def refundSchema : Schema where
  name := "RefundPaymentBody"
  description :=
    "HTTP body of a refund call; payment and tenant come from the path and headers."
  properties := [numberProperty "amount" true (sampleNumber 40), textProperty "reason" true none]

def outcomeSchema : Schema where
  name := "RefundResponse"
  description := "Outcome of a refund. Failures are reported here, never as errors."
  properties :=
    [textProperty "paymentId" false none,
      textProperty "status" false (sample "PARTIALLY_REFUNDED"),
      numberProperty "refundAmount" false (sampleNumber 40),
      { name := "isPartialRefund", type := "boolean" }, objectProperty "providerResponse" true,
      textProperty "error" true none]

/-- Every record of the interface. -/
def schemas : List Schema :=
  [createSchema, completeSchema, failSchema, cancelSchema, listSchema, paymentSchema,
    refundSchema, outcomeSchema]

/-! ## Operations -/

/-- The payment that a path names. -/
def idParameter : Parameter where
  place := .path
  property := textProperty "id" false none
  description := "Payment ID (UUID v7)"

def filterParameter (property : Property) (description : String) : Parameter :=
  ⟨.query, property, description⟩

/-- The path of one payment, and of a command on it. -/
def paymentPath (command : String) : String :=
  "/api/payments/\x7bid\x7d" ++ command

/-- An answer that holds a payment. -/
def paymentAnswer (status : Nat) (description : String) : Answer :=
  ⟨status, description, .one paymentSchema.name⟩

/-- A refusal because of the state of the payment. -/
def illegalAnswer : Answer :=
  { status := 409, description := "Illegal state transition" }

def healthOperation : Operation where
  path := "/health"
  method := "get"
  id := "health"
  summary := "Health check endpoint"
  tag := "health"
  answers :=
    [⟨200, "Service is healthy", .sample (.record [("status", .string "healthy")])⟩]
  isPublic := true

def createOperation : Operation where
  path := "/api/payments"
  method := "post"
  id := "create_payment"
  summary := "Create a pending payment"
  tag := "payments"
  body := some createSchema.name
  answers :=
    [paymentAnswer 201 "Payment created",
      { status := 400, description := "Invalid amount, currency or provider" },
      { status := 401, description := "Missing tenant" }]

def listOperation : Operation where
  path := "/api/payments"
  method := "get"
  id := "list_payments"
  summary := "List the tenant's payments, newest first"
  tag := "payments"
  parameters :=
    [filterParameter (textProperty "status" true none) "Filter by status",
      filterParameter (textProperty "provider" true none) "Filter by provider type",
      filterParameter (textProperty "orderId" true none) "Filter by order id",
      filterParameter (countProperty "limit" none) "Page size (default 50)",
      filterParameter (countProperty "offset" none) "Rows to skip"]
  answers :=
    [⟨200, "Payments", .many paymentSchema.name⟩,
      { status := 400, description := "Unknown status or provider filter" }]

def getOperation : Operation where
  path := paymentPath ""
  method := "get"
  id := "get_payment"
  summary := "Get a payment"
  tag := "payments"
  parameters := [idParameter]
  answers :=
    [paymentAnswer 200 "Payment found",
      { status := 404, description := "Payment not found for this tenant" }]

def processOperation : Operation where
  path := paymentPath "/process"
  method := "post"
  id := "start_processing"
  summary := "Move a pending payment into processing"
  tag := "lifecycle"
  parameters := [idParameter]
  answers :=
    [paymentAnswer 200 "Payment processing",
      { status := 404, description := "Payment not found" }, illegalAnswer]

def completeOperation : Operation where
  path := paymentPath "/complete"
  method := "post"
  id := "complete_payment"
  summary := "Record the provider capture"
  tag := "lifecycle"
  parameters := [idParameter]
  body := some completeSchema.name
  answers :=
    [paymentAnswer 200 "Payment completed",
      { status := 404, description := "Payment not found" }, illegalAnswer]

def failOperation : Operation where
  path := paymentPath "/fail"
  method := "post"
  id := "fail_payment"
  summary := "Record a provider rejection"
  tag := "lifecycle"
  parameters := [idParameter]
  body := some failSchema.name
  answers := [paymentAnswer 200 "Payment failed", illegalAnswer]

def cancelOperation : Operation where
  path := paymentPath "/cancel"
  method := "post"
  id := "cancel_payment"
  summary := "Cancel a payment that has not completed"
  tag := "lifecycle"
  parameters := [idParameter]
  body := some cancelSchema.name
  answers := [paymentAnswer 200 "Payment cancelled", illegalAnswer]

def refundOperation : Operation where
  path := paymentPath "/refund"
  method := "post"
  id := "refund_payment"
  summary := "Refund all or part of a payment"
  tag := "refunds"
  parameters := [idParameter]
  body := some refundSchema.name
  answers :=
    [⟨200, "Refund outcome; failures carry status FAILED and an error",
      .one outcomeSchema.name⟩]

/-- Every operation of the interface. -/
def operations : List Operation :=
  [healthOperation, createOperation, listOperation, getOperation, processOperation,
    completeOperation, failOperation, cancelOperation, refundOperation]

/-! ## The document -/

def title : String := "Payments Lifecycle API"

def introduction : String :=
  "Multi-tenant payment lifecycle: creation, processing, completion, failure, cancellation and " ++
    "refunds through external providers.\n\n## Tenancy\n\nEvery \x60/api\x60 endpoint requires " ++
    "the tenant header:\n\n\x60\x60\x60\nX-Tenant-Id: tenant-a\n\x60\x60\x60\n\nPayments of " ++
    "other tenants are reported as not found."

def tags : List (String × String) :=
  [("health", "Health check endpoints"), ("payments", "Payment creation and queries"),
    ("lifecycle", "Status transitions"), ("refunds", "Refunds through the payment provider")]

/-- How callers name their tenant. -/
def tenantScheme : Json :=
  .record [("type", .string "apiKey"), ("in", .string "header"),
    ("name", .string "X-Tenant-Id")]

def formatVersion : String := "3.1.0"

/-- The whole document. -/
def payments : Json :=
  .record [
    ("openapi", .string formatVersion),
    ("info", .record [("title", .string title), ("description", .string introduction),
      ("license", .record [("name", .string "MIT")]), ("version", .string "1.0.0")]),
    ("paths", pathsJson operations),
    ("components", .record [
      ("schemas", .record (schemas.map fun s => (s.name, s.toJson))),
      ("securitySchemes", .record [("tenant", tenantScheme)])]),
    ("tags", .array (tags.map fun tag =>
      .record [("name", .string tag.1), ("description", .string tag.2)]))]

end Paydesk.Document
