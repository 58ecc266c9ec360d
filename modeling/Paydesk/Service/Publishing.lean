import Paydesk.Service.Workflow

/-!
# Publishing

Events are offered to all listeners in turn. One that refuses is passed over, and the first refusal
is the result; one that never answers keeps the event from those after it. A use case waits for a
bounded time only and goes on whatever became of the event.
-/

namespace Paydesk

variable {γ π : Type}

/-- Offers an event to listeners in order; `first` is the first refusal so far. No result means that
a listener never answers. -/
def offerAll (event : Event) (first : Option PublishError) :
    List π → Workflow γ π (Option (Except PublishError Unit))
  | [] =>
    .done <| some <| match first with
      | none => .ok ()
      | some error => .error error
  | listener :: rest =>
    .offer listener event fun delivery =>
      match delivery with
      | .accepted => offerAll event first rest
      | .refused error =>
        .warn (.publisherFailed error event.topic) (offerAll event (first.or (some error)) rest)
      | .pending => .done none

/-- Publishes an event and notes what went wrong. -/
def publish (listeners : List π) (timeoutMillis : Nat) (event : Event) : Workflow γ π Unit := do
  match ← offerAll event none listeners with
  | some (.ok ()) => return ()
  | some (.error error) => .warn (.publishFailed error event.topic event.payment) (.done ())
  | none => .warn (.publishTimedOut timeoutMillis event.topic event.payment) (.done ())

/-- Publishes events one after the other. -/
def publishAll (listeners : List π) (timeoutMillis : Nat) : List Event → Workflow γ π Unit
  | [] => .done ()
  | event :: rest => do
    publish listeners timeoutMillis event
    publishAll listeners timeoutMillis rest

end Paydesk
