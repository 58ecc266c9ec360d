import Paydesk.Invalid
import Paydesk.Text.Blank

/-!
# Payment status

The states of a payment and the graph of the changes that are allowed between them.
-/

namespace Paydesk

inductive Status where
  | pending
  | processing
  | completed
  | failed
  | cancelled
  | refunded
  | partiallyRefunded
  deriving DecidableEq

namespace Status

/-- Every state, in the order in which they are listed. -/
def all : List Status :=
  [.pending, .processing, .completed, .failed, .cancelled, .refunded, .partiallyRefunded]

/-- The states that may follow one, in the order of the graph's table. -/
def successors : Status → List Status
  | .pending => [.processing, .cancelled]
  | .processing => [.completed, .failed, .cancelled]
  | .completed => [.refunded, .partiallyRefunded]
  | .partiallyRefunded => [.refunded]
  | .failed | .cancelled | .refunded => []

/-- The graph has an edge between the two states. -/
def allows (source target : Status) : Bool :=
  source.successors.contains target

/-- No state may follow. -/
def isTerminal (s : Status) : Bool :=
  s.successors.isEmpty

/-- Money is held that can be paid back. -/
def isRefundable : Status → Bool
  | .completed | .partiallyRefunded => true
  | _ => false

/-- The payment can still be cancelled. -/
def isCancellable : Status → Bool
  | .pending | .processing => true
  | _ => false

def code : Status → String
  | .pending => "PENDING"
  | .processing => "PROCESSING"
  | .completed => "COMPLETED"
  | .failed => "FAILED"
  | .cancelled => "CANCELLED"
  | .refunded => "REFUNDED"
  | .partiallyRefunded => "PARTIALLY_REFUNDED"

/-- Reads a code in any case, with blanks around it. -/
def read (s : String) : Except Invalid Status :=
  let text := Text.trim s
  match all.find? fun status => Text.sameLetters status.code text with
  | some status => .ok status
  | none => .error (.status text)

end Status

end Paydesk
