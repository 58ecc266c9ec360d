import Paydesk.Address.Basic
import Paydesk.Address.Escape
import Paydesk.Address.Host
import Paydesk.Address.Number
import Paydesk.Address.Path
import Paydesk.Address.Request
import Paydesk.Amount
import Paydesk.Binary64.Basic
import Paydesk.Binary64.Shortest
import Paydesk.Binary64.Text
import Paydesk.Config
import Paydesk.Currency
import Paydesk.Decimal.Arithmetic
import Paydesk.Decimal.Basic
import Paydesk.Decimal.Text
import Paydesk.Digest.Hmac
import Paydesk.Digest.Sha256
import Paydesk.Document.Payments
import Paydesk.Document.Schema
import Paydesk.Error
import Paydesk.Fields
import Paydesk.Gateway.Exchange
import Paydesk.Gateway.Order
import Paydesk.Gateway.Registry
import Paydesk.Gateway.Remote
import Paydesk.Hostname.Basic
import Paydesk.Hostname.Composition
import Paydesk.Hostname.Direction
import Paydesk.Hostname.Fold
import Paydesk.Hostname.FoldTable
import Paydesk.Hostname.Label
import Paydesk.Hostname.Punycode
import Paydesk.Instant.Basic
import Paydesk.Instant.Calendar
import Paydesk.Instant.Rfc3339
import Paydesk.Invalid
import Paydesk.Json.Basic
import Paydesk.Json.Number
import Paydesk.Json.Pointer
import Paydesk.Json.Printer
import Paydesk.Json.Scan
import Paydesk.Metadata
import Paydesk.Payment.Basic
import Paydesk.Payment.Event
import Paydesk.Payment.Lifecycle
import Paydesk.PaymentId
import Paydesk.Power
import Paydesk.Provider
import Paydesk.Rounding
import Paydesk.Service.Desk
import Paydesk.Service.Notice
import Paydesk.Service.Publishing
import Paydesk.Service.Request
import Paydesk.Service.Webhook
import Paydesk.Service.Workflow
import Paydesk.Signature
import Paydesk.Status
import Paydesk.Store
import Paydesk.Text.Ascii
import Paydesk.Text.Blank
import Paydesk.Text.CodePoint
import Paydesk.Text.Hex
import Paydesk.Text.Numeral
import Paydesk.Text.Quoted
import Paydesk.Text.Split
import Paydesk.Text.Unprintable
import Paydesk.Text.Utf8
import Paydesk.Uuid
import Paydesk.Web.Api
import Paydesk.Web.MediaType
import Paydesk.Web.Message
import Paydesk.Web.Percent
import Paydesk.Web.Query
import Paydesk.Web.Route
import Paydesk.Wire.Codes
import Paydesk.Wire.Payments
import Paydesk.Wire.Reader
import Paydesk.Wire.Record
import Paydesk.Wire.Requests
import Paydesk.Proofs.Amount.Cents
import Paydesk.Proofs.Decimal.Rational
import Paydesk.Proofs.Amount.Arithmetic
import Paydesk.Proofs.Payment.Balance
import Paydesk.Proofs.Payment.Books
import Paydesk.Proofs.Payment.History
import Paydesk.Proofs.Service.Interleaving
import Paydesk.Proofs.Service.Trail
import Paydesk.Proofs.Store.Versions
import Paydesk.Proofs.Store.Writers
import Paydesk.Proofs.Service.Task
import Paydesk.Proofs.Service.UseCase
import Paydesk.Proofs.Service.Course
import Paydesk.Proofs.Service.Refunds
import Paydesk.Proofs.Service.Approvals
import Paydesk.Proofs.Service.Account
import Paydesk.Proofs.Service.Atomic
import Paydesk.Proofs.Service.Custody
import Paydesk.Proofs.Service.Decision
import Paydesk.Proofs.Service.Lifecycle
import Paydesk.Proofs.Service.Alike
import Paydesk.Proofs.Service.Listeners
import Paydesk.Proofs.Service.Publication
import Paydesk.Proofs.Payment.Story
import Paydesk.Proofs.Service.Story
import Paydesk.Proofs.Service.Errand
import Paydesk.Proofs.Web.Refinement
import Paydesk.Proofs.Web.RefundBody
import Paydesk.Proofs.Service.Discreet
import Paydesk.Proofs.Store.Holdings
import Paydesk.Proofs.Service.Ownership
import Paydesk.Proofs.Service.Isolation
import Paydesk.Proofs.Web.Isolation
import Paydesk.Proofs.Service.Stall
import Paydesk.Proofs.Service.Overtaking
import Paydesk.Proofs.Text.Numeral
import Paydesk.Proofs.Text.Trim
import Paydesk.Proofs.Text.Codes
import Paydesk.Proofs.Payment.Notes
import Paydesk.Proofs.Service.Notes
import Paydesk.Proofs.Decimal.Text
import Paydesk.Proofs.Instant.Calendar
import Paydesk.Proofs.Instant.Rfc3339
import Paydesk.Proofs.Json.Fields
import Paydesk.Proofs.Json.Values
import Paydesk.Proofs.Json.Scalars
import Paydesk.Proofs.Json.Text
import Paydesk.Proofs.Wire.Record
import Paydesk.Proofs.Payment.Restored
import Paydesk.Proofs.Wire.Payments
import Paydesk.Proofs.Payment.Planning
import Paydesk.Proofs.Payment.InPlace
import Paydesk.Proofs.Gateway.Remote
import Paydesk.Proofs.Service.Confirmation
import Paydesk.Proofs.Service.Listing
import Paydesk.Proofs.Signature.Header
import Paydesk.Proofs.Signature.Replay
import Paydesk.Proofs.Amount.Product
import Paydesk.Proofs.Binary64.Digits
import Paydesk.Proofs.Decimal.Numeral
import Paydesk.Proofs.Amount.FaceValue
import Paydesk.Proofs.Uuid.Spelling
import Paydesk.Proofs.Store.Queries
import Paydesk.Proofs.Store.Bench
import Paydesk.Proofs.Gateway.Registry
import Paydesk.Proofs.Service.Routing
import Paydesk.Proofs.Web.RefundAnswer
import Paydesk.Proofs.Config.Loading
import Paydesk.Proofs.Text.Letters
import Paydesk.Proofs.Wire.Codes
