import Streamkeeper.Telemetry.Event

/-!
Routes: which sink an event goes to.

An event goes to exactly one sink.  Without a session handle that is the global recorder.  With one,
it is the handle's sink for the instance if the handle tracks the instance, and its sink for the
whole directory otherwise.
-/

namespace Streamkeeper.Telemetry

/-- The sink of an event. -/
inductive Route where
  | global
  | perInstance (instanceId : String)
  | aggregate
deriving Repr, DecidableEq

namespace Route

/-- Chooses the sink of an event about an instance.  `tracks` is what the session handle answers to
the question whether it tracks an instance, if there is a handle.  The empty id names no instance. -/
def select (tracks : Option (String → Bool)) (instanceId : String) : Route :=
  match tracks with
  | none => .global
  | some tracks =>
    if instanceId ≠ "" ∧ tracks instanceId = true then .perInstance instanceId else .aggregate

/-- The name of a route. -/
def name : Route → String
  | .global => "global"
  | .perInstance _ => "per_instance"
  | .aggregate => "aggregate"

end Route

end Streamkeeper.Telemetry
