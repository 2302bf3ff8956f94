import Streamkeeper.Json.Printer
import Streamkeeper.Origin
import Streamkeeper.Status

/-!
Telemetry events.

An event reports the start or the stop of a session.  Its parts are optional, and absent parts are
left out when it is written.
-/

namespace Streamkeeper.Telemetry

/-- What an event reports. -/
inductive Kind where
  | sessionStart
  | sessionStop
deriving Repr, DecidableEq, Inhabited

/-- The name of a kind. -/
def Kind.name : Kind → String
  | .sessionStart => "SessionStart"
  | .sessionStop => "SessionStop"

/-- What the registry makes of a start. -/
inductive StartStatus where
  | ok
  | invalidDirectory
deriving Repr, DecidableEq, Inhabited

/-- The name of a start status in an event. -/
def StartStatus.tag : StartStatus → String
  | .ok => "ok"
  | .invalidDirectory => "invalid_dir_error"

/-- The name of a start status in values shown to a developer. -/
def StartStatus.literal : StartStatus → String
  | .ok => "Ok"
  | .invalidDirectory => "InvalidDirError"

/-- The outcome of a start. -/
structure StartData where
  statusCode : StatusCode
  status : StartStatus
  origin : Origin
  concurrentSessions : Option Nat
deriving Repr, DecidableEq

/-- A start that went well, from an unknown origin. -/
def StartData.initial : StartData :=
  { statusCode := .ok, status := .ok, origin := .unknown, concurrentSessions := none }

/-- What the streaming manager adds to an event. -/
structure ManagerData where
  start : Option StartData
  instanceId : Option String
  directory : Option String
deriving Repr, DecidableEq

/-- Nothing added. -/
def ManagerData.initial : ManagerData :=
  { start := none, instanceId := none, directory := none }

/-- An event. -/
structure Event where
  projectId : Option String
  organizationId : Option String
  manager : Option ManagerData
deriving Repr, DecidableEq

namespace StartData

/-- Start data as a JSON object. -/
def toJson (d : StartData) : Json :=
  .object ([("status_code", .string d.statusCode.name), ("status", .string d.status.tag),
      ("origin", d.origin.toJson)] ++
    Json.field? "concurrent_session_count" (d.concurrentSessions.map Json.nat))

end StartData

namespace ManagerData

/-- Manager data as a JSON object. -/
def toJson (d : ManagerData) : Json :=
  .object (Json.field? "session_start_data" (d.start.map (·.toJson)) ++
    Json.field? "instance_id" (d.instanceId.map .string) ++
    Json.field? "workstation_directory" (d.directory.map .string))

end ManagerData

namespace Event

/-- The event without any part. -/
def empty : Event :=
  { projectId := none, organizationId := none, manager := none }

/-- The event of a start that went well so far. -/
def sessionStart (origin : Origin) : Event :=
  { empty with manager := some { ManagerData.initial with
      start := some { StartData.initial with origin := origin } } }

/-- The manager data of an event, or none added yet. -/
def managerData (e : Event) : ManagerData :=
  e.manager.getD .initial

/-- Changes the manager data, which the event has afterwards. -/
def updateManager (e : Event) (f : ManagerData → ManagerData) : Event :=
  { e with manager := some (f e.managerData) }

/-- Changes the start data, which the event has afterwards. -/
def updateStart (e : Event) (f : StartData → StartData) : Event :=
  e.updateManager fun m => { m with start := some (f (m.start.getD .initial)) }

/-- The start data of an event. -/
def startData? (e : Event) : Option StartData :=
  e.manager.bind (·.start)

/-- The instance that an event is attributed to. -/
def instanceId? (e : Event) : Option String :=
  e.manager.bind (·.instanceId)

/-- The workstation directory that an event is attributed to. -/
def directory? (e : Event) : Option String :=
  e.manager.bind (·.directory)

/-- An event as a JSON object. -/
def toJson (e : Event) : Json :=
  .object (Json.field? "project_id" (e.projectId.map .string) ++
    Json.field? "organization_id" (e.organizationId.map .string) ++
    Json.field? "as_manager_data" (e.manager.map (·.toJson)))

/-- An event as it is recorded. -/
def render (e : Event) : String :=
  e.toJson.compact

end Event

end Streamkeeper.Telemetry
