import AllowPolicy.Journal

namespace AllowPolicy

/-- The stored rules have changed and are to be loaded again. -/
def rulesUpdate : String := "rules.update"

/-- The rules in force have changed. -/
def rulesChanged : String := "rules.changed"

/-- One handler of one event. -/
structure Subscription (η : Type) where
  event : String
  handler : η
  deriving DecidableEq, Repr

/-- The handlers of events, in the order of their subscriptions. A handler may be subscribed more
    than once. -/
structure Bus (η : Type) where
  subscriptions : List (Subscription η) := []
  deriving DecidableEq, Repr

namespace Bus

variable {η : Type}

def handlers (bus : Bus η) (event : String) : List η :=
  (bus.subscriptions.filter (·.event = event)).map (·.handler)

def count (bus : Bus η) (event : String) : Nat := (bus.handlers event).length

def subscribe (bus : Bus η) (subscription : Subscription η) : Bus η :=
  ⟨bus.subscriptions ++ [subscription]⟩

/-- Takes off the oldest subscription of this handler to this event, if there is one. -/
def unsubscribe [DecidableEq η] (bus : Bus η) (subscription : Subscription η) : Bus η :=
  ⟨bus.subscriptions.erase subscription⟩

variable {σ : Type}

/-- Calls handlers one after another. A handler that fails is noted and does not stop the others. -/
def deliver (call : η → Act σ (Outcome Unit)) (event : String) : List η → Act σ Unit
  | [] => pure ()
  | handler :: rest => do
    match ← call handler with
    | .ok () => pure ()
    | .error failure =>
      note
        { level := .error, text := "Handler failed for event " ++ event, failure := some failure }
    deliver call event rest

/-- Delivers an event to those who are its handlers now, and tells how many they are. Handlers that
    come or go during the delivery do not count. -/
def publish (busOf : σ → Bus η) (call : η → String → Act σ (Outcome Unit)) (event : String) :
    Act σ Nat := do
  let handlers := (busOf (← get)).handlers event
  deliver (call · event) event handlers
  log .debug
    ("Published " ++ event ++ " to " ++ toString handlers.length ++ " handler(s)")
  pure handlers.length

end Bus

end AllowPolicy
