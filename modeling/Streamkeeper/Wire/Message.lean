import Streamkeeper.Json.Printer
import Streamkeeper.Origin
import Streamkeeper.Status

/-!
The messages between the daemon and its clients, and how they are written.

A message is one JSON object with the tag `type` and its fields beside it, in a fixed order.  It is
written on one line, so a line feed can end it.
-/

namespace Streamkeeper

/-- Asks to stream a workstation directory to a gamelet. -/
structure StartRequest where
  gameletName : String
  workstationDirectory : String
  origin : Origin
deriving Repr, DecidableEq, Inhabited

/-- What a client asks of the daemon. -/
inductive Request where
  | status
  | startSession (request : StartRequest)
  | stopSession (gameletId : String)
  | shutdown
deriving Repr, DecidableEq, Inhabited

/-- One active session as the daemon reports it. -/
structure SessionSummary where
  instanceId : String
  workstationDirectory : String
  host : String
  port : UInt16
  startedAt : UInt64
deriving Repr, DecidableEq, Inhabited

/-- The state of the daemon: its sessions and the session configuration in effect. -/
structure ManagerStatus where
  sessionCount : Nat
  sessions : List SessionSummary
  config : Json
deriving Repr, Inhabited

/-- What the daemon answers. -/
inductive Response where
  | status (status : ManagerStatus)
  | ok
  | error (code : StatusCode) (message : String)
deriving Repr, Inhabited

namespace Request

/-- The tag of a request. -/
def tag : Request → String
  | .status => "status"
  | .startSession _ => "start_session"
  | .stopSession _ => "stop_session"
  | .shutdown => "shutdown"

/-- The fields of a request beside its tag. -/
def fields : Request → List (String × Json)
  | .startSession r =>
    [("gamelet_name", .string r.gameletName),
      ("workstation_directory", .string r.workstationDirectory), ("origin", r.origin.toJson)]
  | .stopSession id => [("gamelet_id", .string id)]
  | .status => []
  | .shutdown => []

/-- A request as a JSON object. -/
def toJson (r : Request) : Json :=
  .object (("type", .string r.tag) :: r.fields)

/-- A request as it is sent, without the line feed after it. -/
def render (r : Request) : String :=
  r.toJson.compact

end Request

namespace SessionSummary

/-- A session as a JSON object. -/
def toJson (s : SessionSummary) : Json :=
  .object
    [("instance_id", .string s.instanceId),
      ("workstation_directory", .string s.workstationDirectory), ("host", .string s.host),
      ("port", .nat s.port.toNat), ("started_at_unix_secs", .nat s.startedAt.toNat)]

end SessionSummary

namespace ManagerStatus

/-- The fields of a status. -/
def fields (s : ManagerStatus) : List (String × Json) :=
  [("session_count", .nat s.sessionCount), ("sessions", .array (s.sessions.map (·.toJson))),
    ("config", s.config)]

/-- A status as a JSON object. -/
def toJson (s : ManagerStatus) : Json :=
  .object s.fields

end ManagerStatus

namespace Response

/-- The tag of a response. -/
def tag : Response → String
  | .status _ => "status"
  | .ok => "ok"
  | .error _ _ => "error"

/-- The fields of a response beside its tag. -/
def fields : Response → List (String × Json)
  | .status s => s.fields
  | .ok => []
  | .error code message => [("code", .string code.name), ("message", .string message)]

/-- A response as a JSON object. -/
def toJson (r : Response) : Json :=
  .object (("type", .string r.tag) :: r.fields)

/-- A response as it is sent, without the line feed after it. -/
def render (r : Response) : String :=
  r.toJson.compact

/-- The outcome that a response reports. -/
def code : Response → StatusCode
  | .status _ => .ok
  | .ok => .ok
  | .error code _ => code

end Response

end Streamkeeper
