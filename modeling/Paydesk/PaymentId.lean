import Paydesk.Invalid
import Paydesk.Text.Blank

/-!
# Payment identifiers

A payment is named by a universal identifier of version 7, which begins with the time at which it
was made, so identifiers sort by creation.
-/

namespace Paydesk

/-- An identifier of version 7 in the standard layout. -/
structure PaymentId where
  uuid : Uuid
  version_eq : uuid.version = 7
  variant_eq : uuid.variant = 2
  deriving DecidableEq

namespace PaymentId

def number (id : PaymentId) : Nat :=
  id.uuid.number

theorem eq_of_number_eq {a b : PaymentId} (h : a.number = b.number) : a = b := by
  obtain ⟨⟨m, hm⟩, _, _⟩ := a
  obtain ⟨⟨n, hn⟩, _, _⟩ := b
  have : m = n := h
  subst this
  rfl

/-- Accepts an identifier of version 7 in the standard layout. -/
def ofUuid (id : Uuid) : Except Invalid PaymentId :=
  if hv : id.version = 7 then
    if ht : id.variant = 2 then .ok ⟨id, hv, ht⟩ else .error (.paymentIdVariant id)
  else .error (.paymentIdVersion id)

/-- Reads an identifier in any of its forms, with blanks around it. -/
def read (s : String) : Except Invalid PaymentId :=
  let text := Text.trim s
  if text.isEmpty then .error .blankPaymentId
  else
    match Uuid.read? text with
    | none => .error (.paymentId text)
    | some id => ofUuid id

/-- The grouped form in lower case. -/
def toText (id : PaymentId) : String :=
  id.uuid.toText

/-- The number of an identifier made at a time, with a serial number in its last bits. -/
def stamped (milliseconds serial : Nat) : Nat :=
  (milliseconds % 0x1000000000000 * 16 + 7) * 0x10000000000000000000 + 0x8000000000000000 +
    serial % 0x4000000000000000

theorem stamped_lt (milliseconds serial : Nat) : stamped milliseconds serial < Uuid.limit := by
  unfold stamped Uuid.limit; omega

/-- A new identifier: the time in milliseconds, then a serial number that tells those of one
millisecond apart. -/
def make (milliseconds serial : Nat) : PaymentId where
  uuid := ⟨stamped milliseconds serial, stamped_lt milliseconds serial⟩
  version_eq := by simp only [Uuid.version, stamped]; omega
  variant_eq := by simp only [Uuid.variant, stamped]; omega

end PaymentId

end Paydesk
