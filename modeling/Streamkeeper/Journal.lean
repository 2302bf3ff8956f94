import Streamkeeper.Provisioning.Launch
import Streamkeeper.Telemetry.Route

/-!
The journal: what an operation does besides its result, in order.

Operations return what they add to the journal.  Log records carry fields only on the channels that
report on the daemon and its configuration.
-/

namespace Streamkeeper

/-- How much a log record matters. -/
inductive Level where
  | info
  | warn
  | error
deriving Repr, DecidableEq

/-- The name of a level. -/
def Level.name : Level → String
  | .info => "INFO"
  | .warn => "WARN"
  | .error => "ERROR"

/-- What a log record is about. -/
inductive Channel where
  | rpc
  | session
  | daemon
  | config
deriving Repr, DecidableEq

/-- A log record. -/
structure LogRecord where
  level : Level
  channel : Channel
  message : String
  fields : List (String × String)
deriving Repr, DecidableEq

/-- An entry of the journal. -/
inductive Entry where
  /-- A record was logged. -/
  | log (record : LogRecord)
  /-- A tool was launched. -/
  | launched (launch : Provisioning.Launch)
  /-- An event was handed to a sink. -/
  | dispatched (route : Telemetry.Route) (kind : Telemetry.Kind) (event : Telemetry.Event)
  /-- An event was recorded. -/
  | recorded (kind : Telemetry.Kind) (event : Telemetry.Event)
deriving Repr, DecidableEq

/-- What happened, in order. -/
abbrev Journal := List Entry

namespace Journal

/-- A log record without fields. -/
def note (level : Level) (channel : Channel) (message : String) : Journal :=
  [.log ⟨level, channel, message, []⟩]

/-- The log records of a journal. -/
def logs (j : Journal) : List LogRecord :=
  j.filterMap fun
    | .log r => some r
    | _ => none

/-- The recorded events of a journal. -/
def events (j : Journal) : List (Telemetry.Kind × Telemetry.Event) :=
  j.filterMap fun
    | .recorded k e => some (k, e)
    | _ => none

/-- The events handed to a sink, with the sink. -/
def dispatches (j : Journal) : List (Telemetry.Route × Telemetry.Kind × Telemetry.Event) :=
  j.filterMap fun
    | .dispatched r k e => some (r, k, e)
    | _ => none

/-- The launches of a journal. -/
def launches (j : Journal) : List Provisioning.Launch :=
  j.filterMap fun
    | .launched l => some l
    | _ => none

end Journal

end Streamkeeper
