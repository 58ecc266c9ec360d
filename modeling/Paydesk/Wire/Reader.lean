import Paydesk.Currency
import Paydesk.Error
import Paydesk.Instant.Rfc3339
import Paydesk.Json.Scan
import Paydesk.Metadata

/-!
# Reading documents

How values of the service are read from a scanned document. A document fails in one of three ways:
its text is malformed, it has another shape than the one asked for, or it holds a value that the
service refuses. The first fault from the front decides.
-/

namespace Paydesk.Wire

open Json (Doc)

/-- Why a document was not read. -/
inductive Fault where
  | malformed
  | shape
  | invalid (why : Invalid)
  deriving DecidableEq

abbrev Reader (α : Type) : Type := Doc → Except Fault α

/-- The fault of a document that is not of the kind asked for. A container is not looked into. -/
def mismatch : Doc → Fault
  | .broken | .number none | .string none => .malformed
  | _ => .shape

def text : Reader String
  | .string (some s) => .ok s
  | d => .error (mismatch d)

def truth : Reader Bool
  | .bool b => .ok b
  | d => .error (mismatch d)

/-- A number, taken as a double. -/
def double : Reader Binary64
  | .number (some n) => .ok n.toBinary64
  | d => .error (mismatch d)

/-- A natural number of 64 bits. -/
def word : Reader Nat
  | .number (some n) =>
    match n.toWord? with
    | some w => .ok w
    | none => .error .shape
  | d => .error (mismatch d)

def json (depth : Nat) : Reader Json := fun d =>
  match d.toJson? depth with
  | some j => .ok j
  | none => .error .malformed

/-- An object with any fields and at most `depth` containers inside one another. -/
def fieldsWithin (depth : Nat) : Reader Metadata
  | .object entries closed =>
    match h : (Doc.object entries closed).toJson? depth with
    | some (.object fields) => .ok ⟨fields, Doc.isOrdered_of_toJson? h⟩
    | _ => .error .malformed
  | d => .error (mismatch d)

/-- An object with any fields, inside a record that is read from a text. -/
def fields : Reader Metadata :=
  fieldsWithin (Json.maxDepth - 1)

def nullable {α : Type} (read : Reader α) : Reader (Option α)
  | .null => .ok none
  | d => (read d).map some

/-- A text that a check turns into a value. -/
def checkedText {α : Type} (check : String → Except Invalid α) : Reader α := fun d =>
  (text d).bind fun s =>
    match check s with
    | .ok a => .ok a
    | .error why => .error (.invalid why)

/-- The decimal number that a document's number or text denotes. -/
def decimal : Reader Decimal
  | .number (some (.int i)) => ((Decimal.ofInt? i).map Except.ok).getD (.error .shape)
  | .number (some (.float x)) => ((Decimal.read? x.plainText).map Except.ok).getD (.error .shape)
  | .string (some s) => ((Decimal.read? s).map Except.ok).getD (.error .shape)
  | d => .error (mismatch d)

def amount : Reader Amount := fun d =>
  (decimal d).bind fun value =>
    match Amount.ofDecimal value with
    | .ok a => .ok a
    | .error why => .error (.invalid why)

def paymentId : Reader PaymentId := checkedText PaymentId.read

def provider : Reader Provider := checkedText Provider.read

def currency : Reader Currency := checkedText Currency.read

def status : Reader Status := checkedText Status.read

def instant : Reader Instant := fun d =>
  (text d).bind fun s =>
    match Instant.read? s with
    | some t => .ok t
    | none => .error .shape

end Paydesk.Wire
