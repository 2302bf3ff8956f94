import Streamkeeper.Client.Error
import Streamkeeper.Wire.Message

/-!
The envelope that a command prints.

An envelope says whether the command succeeded and holds either its data or its error.  Parts that
are absent are left out.  It is printed as indented JSON, as JSON on one line, or as text; the text
shows the data or the error alone.
-/

namespace Streamkeeper.Client

/-- How results are printed. -/
inductive Format where
  | json
  | ndjson
  | text
deriving Repr, DecidableEq, Inhabited

/-- The formats with their names. -/
def Format.names : List (String × Format) :=
  [("json", .json), ("ndjson", .ndjson), ("text", .text)]

/-- The name of a format. -/
def Format.name : Format → String
  | .json => "json"
  | .ndjson => "ndjson"
  | .text => "text"

/-- The version of the envelope's form. -/
def schemaVersion : Nat := 1

/-- The error of a command. -/
structure Failure where
  code : StatusCode
  message : String
deriving Repr, DecidableEq

/-- The result of a command.  It is a success exactly when it has no error. -/
structure Envelope where
  command : String
  data : Option Json
  error : Option Failure
  durationMs : Option Nat
deriving Repr

/-- Failures as JSON objects. -/
def Failure.toJson (f : Failure) : Json :=
  .object [("code", .string f.code.name), ("message", .string f.message)]

namespace Envelope

/-- Did the command succeed? -/
def ok (e : Envelope) : Bool :=
  e.error.isNone

/-- The envelope of a success. -/
def success (command : String) (data : Json) (durationMs : Nat) : Envelope :=
  { command := command, data := some data, error := none, durationMs := some durationMs }

/-- The envelope of a failure. -/
def failure (command : String) (e : CommandError) (durationMs : Nat) : Envelope :=
  { command := command, data := none, error := some ⟨e.code, e.message⟩
    durationMs := some durationMs }

/-- An envelope as a JSON object. -/
def toJson (e : Envelope) : Json :=
  .object ([("schemaVersion", .nat schemaVersion), ("ok", .bool e.ok),
      ("command", .string e.command)] ++
    Json.field? "data" e.data ++ Json.field? "error" (e.error.map (·.toJson)) ++
    Json.field? "durationMs" (e.durationMs.map Json.nat))

/-- The text form of an envelope, line by line. -/
def textLines (e : Envelope) : List String :=
  let body := match e.error, e.data with
    | some f, _ => [s!"Error [{f.code.name}]: {f.message}"]
    | none, some data => [data.pretty]
    | none, none => []
  let duration := match e.durationMs with
    | some n => [s!"Completed in {n}ms"]
    | none => []
  body ++ duration

/-- What is printed of an envelope. -/
def print (e : Envelope) (format : Format) : String :=
  match format with
  | .json => e.toJson.pretty ++ "\n"
  | .ndjson => e.toJson.compact ++ "\n"
  | .text => String.join (e.textLines.map fun line => line ++ "\n")

end Envelope

/-! ### Data of commands -/

/-- The data of starting and stopping a session. -/
structure SessionData where
  gamelet : String
  workstationDirectory : Option String
deriving Repr, DecidableEq

/-- The data of asking for the status. -/
structure StatusData where
  running : Bool
  endpoint : String
  sessionCount : Option Nat
  sessions : List SessionSummary
  config : Option Json
deriving Repr

/-- The data of a shutdown; nothing is stopped when no daemon runs. -/
structure ShutdownData where
  stopped : Bool
  endpoint : String
deriving Repr, DecidableEq

/-- Session data as a JSON object. -/
def SessionData.toJson (d : SessionData) : Json :=
  .object (("gamelet", .string d.gamelet) ::
    Json.field? "workstationDirectory" (d.workstationDirectory.map .string))

/-- Status data as a JSON object; an empty list of sessions is left out. -/
def StatusData.toJson (d : StatusData) : Json :=
  let sessions : Option Json :=
    if d.sessions.isEmpty then none else some (.array (d.sessions.map (·.toJson)))
  .object ([("running", .bool d.running), ("endpoint", .string d.endpoint)] ++
    Json.field? "sessionCount" (d.sessionCount.map Json.nat) ++
    Json.field? "sessions" sessions ++ Json.field? "config" d.config)

/-- Shutdown data as a JSON object. -/
def ShutdownData.toJson (d : ShutdownData) : Json :=
  .object [("stopped", .bool d.stopped), ("endpoint", .string d.endpoint)]

/-- The status of a daemon that does not run. -/
def StatusData.notRunning (endpoint : String) : StatusData :=
  { running := false, endpoint := endpoint, sessionCount := none, sessions := [], config := none }

/-- The status that a daemon reports. -/
def StatusData.ofStatus (endpoint : String) (s : ManagerStatus) : StatusData :=
  { running := true, endpoint := endpoint, sessionCount := some s.sessionCount
    sessions := s.sessions, config := some s.config }

end Streamkeeper.Client
