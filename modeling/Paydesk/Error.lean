import Paydesk.Amount
import Paydesk.PaymentId
import Paydesk.Provider
import Paydesk.Status

/-!
# Errors

What can go wrong at each place: the rules of a payment, the store, the payment providers, the
receivers of events, and the service as a whole, which sorts all of these into seven kinds. Every
error is a cause; its words are the function `message`.
-/

namespace Paydesk

/-! ## Payments -/

/-- A rule of the payment that a command would break. -/
inductive PaymentError where
  | invalid (why : Invalid)
  | illegalTransition (source target : Status)
  | refundExceeds (requested available : Amount)
  deriving DecidableEq

namespace PaymentError

def message : PaymentError → String
  | .invalid why => "Validation error: " ++ why.message
  | .illegalTransition source target =>
    "Illegal state transition from " ++ source.code ++ " to " ++ target.code
  | .refundExceeds requested available =>
    "Refund amount " ++ requested.formatted ++ " exceeds refundable amount " ++
      available.formatted

/-- The payment's state forbids the command; a refund above the balance counts as such. -/
def isIllegalTransition : PaymentError → Bool
  | .invalid _ => false
  | .illegalTransition _ _ | .refundExceeds _ _ => true

end PaymentError

/-- A value that is refused breaks a rule of the payment that was to hold it. -/
def checked {α : Type} : Except Invalid α → Except PaymentError α
  | .ok a => .ok a
  | .error why => .error (.invalid why)

/-! ## The store -/

/-- Why a payment was not stored over the one that is there. -/
inductive Conflict where
  | stale (id : PaymentId) (stored given : Nat)
  | missing (id : PaymentId)
  | other (text : String)
  deriving DecidableEq

def Conflict.message : Conflict → String
  | .stale id stored given =>
    "payment " ++ id.toText ++ " was modified concurrently (stored version " ++
      Text.natText stored ++ ", given " ++ Text.natText given ++ ")"
  | .missing id => "payment " ++ id.toText ++ " no longer exists"
  | .other text => text

/-- A failure to read or write the store. -/
inductive StoreError where
  | payment (error : PaymentError)
  | storage (text : String)
  | notFound
  | conflict (why : Conflict)
  deriving DecidableEq

def StoreError.message : StoreError → String
  | .payment error => error.message
  | .storage text => "Storage error: " ++ text
  | .notFound => "Entity not found"
  | .conflict why => "Conflict: " ++ why.message

/-! ## Payment providers -/

/-- A failure to have a provider act. -/
inductive GatewayError where
  | notConfigured (tenant : String) (provider : Provider)
  | unsupported (provider : Provider)
  | timedOut
  | transport (text : String)
  | rejected (text : String)
  deriving DecidableEq

def GatewayError.message : GatewayError → String
  | .notConfigured tenant provider =>
    "No " ++ provider.code ++ " provider configured for tenant " ++ tenant
  | .unsupported provider => "Provider " ++ provider.code ++ " does not support refunds"
  | .timedOut => "Provider request timed out"
  | .transport text => "Provider transport error: " ++ text
  | .rejected text => "Provider rejected the request: " ++ text

/-! ## Receivers of events -/

/-- A failure to hand an event on. -/
inductive PublishError where
  | serialization (text : String)
  | transport (text : String)
  deriving DecidableEq

def PublishError.message : PublishError → String
  | .serialization text => "Failed to serialize event: " ++ text
  | .transport text => "Failed to deliver event: " ++ text

/-! ## The service -/

/-- The kinds of failure that callers of the service tell apart. -/
inductive ErrorKind where
  | validation
  | illegalTransition
  | notFound
  | unsupported
  | provider
  | conflict
  | internal
  deriving DecidableEq

/-- The words that stand before the detail of a failure. -/
def ErrorKind.title : ErrorKind → String
  | .validation => "Validation error"
  | .illegalTransition => "Illegal state transition"
  | .notFound => "Not found"
  | .unsupported => "Unsupported operation"
  | .provider => "Provider error"
  | .conflict => "Conflict"
  | .internal => "Internal error"

/-- The status code with which a failure is answered. -/
def ErrorKind.statusCode : ErrorKind → Nat
  | .validation => 400
  | .notFound => 404
  | .illegalTransition | .conflict => 409
  | .internal => 500
  | .unsupported => 501
  | .provider => 502

structure ServiceError where
  kind : ErrorKind
  detail : String
  deriving DecidableEq

namespace ServiceError

def message (e : ServiceError) : String :=
  e.kind.title ++ ": " ++ e.detail

def ofPayment : PaymentError → ServiceError
  | .invalid why => ⟨.validation, why.message⟩
  | e => ⟨.illegalTransition, e.message⟩

def ofStore : StoreError → ServiceError
  | .payment e => ofPayment e
  | .storage text => ⟨.internal, text⟩
  | .notFound => ⟨.notFound, "Resource not found"⟩
  | .conflict why => ⟨.conflict, why.message⟩

def ofGateway (e : GatewayError) : ServiceError :=
  match e with
  | .unsupported _ => ⟨.unsupported, e.message⟩
  | _ => ⟨.provider, e.message⟩

def ofInvalid (why : Invalid) : ServiceError :=
  ⟨.validation, why.message⟩

end ServiceError

end Paydesk
