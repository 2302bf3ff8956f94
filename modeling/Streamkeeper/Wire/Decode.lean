import Streamkeeper.Wire.Tagged
import Streamkeeper.Wire.Message

/-!
Reading the messages between the daemon and its clients.
-/

namespace Streamkeeper

open Json (Mismatch ReadError)

namespace StartRequest

/-- The fields of a start request. -/
def shape : List Wire.Field :=
  [Wire.field "gamelet_name" Wire.string, Wire.field "workstation_directory" Wire.string,
    ⟨"origin", fun _ => .ok ()⟩]

/-- A start request; its origin may be left out and may be any value. -/
def ofContent : Wire.Content → Except Mismatch StartRequest
  | .members ms => do
    Wire.checkMembers shape [] ms
    let name ← Wire.required Wire.string "gamelet_name" ms
    let directory ← Wire.required Wire.string "workstation_directory" ms
    .ok ⟨name, directory, ((Wire.member? "origin" ms).map Origin.ofJson).getD .unknown⟩
  | .elements xs =>
    let record := "struct StartSessionRequest with 3 elements"
    match xs with
    | [] => Wire.tooShort 0 record
    | [name] => do
      let _ ← Wire.string name
      Wire.tooShort 1 record
    | name :: directory :: rest => do
      let name ← Wire.string name
      let directory ← Wire.string directory
      match rest with
      | [] => .ok ⟨name, directory, .unknown⟩
      | origin :: rest => do
        Wire.noMore 3 rest
        .ok ⟨name, directory, Origin.ofJson origin⟩

end StartRequest

namespace Request

/-- The kinds of requests. -/
inductive Kind where
  | status
  | startSession
  | stopSession
  | shutdown
deriving Repr, DecidableEq

/-- The kinds of requests with their tags. -/
def kinds : List (String × Kind) :=
  [("status", .status), ("start_session", .startSession), ("stop_session", .stopSession),
    ("shutdown", .shutdown)]

/-- The kind of request with a tag. -/
def kindOf (tag : String) : Except Mismatch Kind :=
  Wire.oneOf (fun t => kinds.lookup t) (kinds.map (·.1)) tag

/-- The record's name in reports. -/
def record : String := "internally tagged enum ManagerRequest"

/-- The gamelet id of a stop request. -/
def stopId : Wire.Content → Except Mismatch String
  | .members ms => do
    Wire.checkMembers [Wire.field "gamelet_id" Wire.string] [] ms
    Wire.required Wire.string "gamelet_id" ms
  | .elements [] => Wire.tooShort 0 "struct StopSessionRequest with 1 element"
  | .elements (id :: rest) => do
    let id ← Wire.string id
    Wire.noMore 1 rest
    .ok id

/-- A record without fields: other members do not matter. -/
def noFields : Wire.Content → Except Mismatch Unit
  | .members _ => .ok ()
  | .elements xs => Wire.noMore 0 xs

/-- The request of a kind with a content. -/
def ofContent (kind : Kind) (content : Wire.Content) : Except Mismatch Request :=
  match kind with
  | .status => (noFields content).map fun _ => .status
  | .shutdown => (noFields content).map fun _ => .shutdown
  | .startSession => (StartRequest.ofContent content).map .startSession
  | .stopSession => (stopId content).map .stopSession

/-- The request that a text denotes. -/
def read? (text : String) : Except ReadError Request :=
  Wire.readTagged record kindOf ofContent text

/-- The request that a value denotes. -/
def ofJson? (v : Json) : Except Mismatch Request := do
  let (kind, content) ← Wire.taggedValue record kindOf v
  ofContent kind content

end Request

namespace SessionSummary

/-- The fields of a session. -/
def shape : List Wire.Field :=
  [Wire.field "instance_id" Wire.string, Wire.field "workstation_directory" Wire.string,
    Wire.field "host" Wire.string, Wire.field "port" Wire.word16,
    Wire.field "started_at_unix_secs" Wire.word64]

/-- A session in the form of an array. -/
def ofElements (xs : List Json) : Except Mismatch SessionSummary :=
  let record := "struct SessionSummary with 5 elements"
  match xs with
  | [] => Wire.tooShort 0 record
  | instanceId :: xs => do
    let instanceId ← Wire.string instanceId
    match xs with
    | [] => Wire.tooShort 1 record
    | directory :: xs => do
      let directory ← Wire.string directory
      match xs with
      | [] => Wire.tooShort 2 record
      | host :: xs => do
        let host ← Wire.string host
        match xs with
        | [] => Wire.tooShort 3 record
        | port :: xs => do
          let port ← Wire.word16 port
          match xs with
          | [] => Wire.tooShort 4 record
          | startedAt :: xs => do
            let startedAt ← Wire.word64 startedAt
            Wire.noMore 5 xs
            .ok ⟨instanceId, directory, host, port, startedAt⟩

/-- The session that a value denotes. -/
def ofJson? (v : Json) : Except Mismatch SessionSummary :=
  match v with
  | .object ms => do
    Wire.checkMembers shape [] ms
    let instanceId ← Wire.required Wire.string "instance_id" ms
    let directory ← Wire.required Wire.string "workstation_directory" ms
    let host ← Wire.required Wire.string "host" ms
    let port ← Wire.required Wire.word16 "port" ms
    let startedAt ← Wire.required Wire.word64 "started_at_unix_secs" ms
    .ok ⟨instanceId, directory, host, port, startedAt⟩
  | .array xs => ofElements xs
  | v => .error (.invalidType v.found "struct SessionSummary")

end SessionSummary

namespace ManagerStatus

/-- The sessions of a status. -/
def sessionList (v : Json) : Except Mismatch (List SessionSummary) :=
  Wire.listOf SessionSummary.ofJson? v

/-- The fields of a status. -/
def shape : List Wire.Field :=
  [Wire.field "session_count" Wire.count, Wire.field "sessions" sessionList,
    ⟨"config", fun _ => .ok ()⟩]

/-- A configuration may be any value. -/
def configValue (v : Json) : Except Mismatch Json :=
  .ok v.canonical

/-- A status in the form of an array. -/
def ofElements (xs : List Json) : Except Mismatch ManagerStatus :=
  let record := "struct ManagerStatus with 3 elements"
  match xs with
  | [] => Wire.tooShort 0 record
  | count :: xs => do
    let count ← Wire.count count
    match xs with
    | [] => Wire.tooShort 1 record
    | sessions :: xs => do
      let sessions ← sessionList sessions
      match xs with
      | [] => Wire.tooShort 2 record
      | config :: xs => do
        Wire.noMore 3 xs
        .ok ⟨count, sessions, config.canonical⟩

/-- The status with a content. -/
def ofContent : Wire.Content → Except Mismatch ManagerStatus
  | .members ms => do
    Wire.checkMembers shape [] ms
    let count ← Wire.required Wire.count "session_count" ms
    let sessions ← Wire.required sessionList "sessions" ms
    let config ← Wire.required configValue "config" ms
    .ok ⟨count, sessions, config⟩
  | .elements xs => ofElements xs

end ManagerStatus

namespace Response

/-- The kinds of responses. -/
inductive Kind where
  | status
  | ok
  | error
deriving Repr, DecidableEq

/-- The kinds of responses with their tags. -/
def kinds : List (String × Kind) :=
  [("status", .status), ("ok", .ok), ("error", .error)]

/-- The kind of response with a tag. -/
def kindOf (tag : String) : Except Mismatch Kind :=
  Wire.oneOf (fun t => kinds.lookup t) (kinds.map (·.1)) tag

/-- The record's name in reports. -/
def record : String := "internally tagged enum ManagerResponse"

/-- The code and the message of an error. -/
def errorContent : Wire.Content → Except Mismatch (StatusCode × String)
  | .members ms => do
    Wire.checkMembers [Wire.field "code" Wire.statusCode, Wire.field "message" Wire.string] [] ms
    let code ← Wire.required Wire.statusCode "code" ms
    let message ← Wire.required Wire.string "message" ms
    .ok (code, message)
  | .elements xs =>
    let record := "struct variant ManagerResponse::Error with 2 elements"
    match xs with
    | [] => Wire.tooShort 0 record
    | code :: xs => do
      let code ← Wire.statusCode code
      match xs with
      | [] => Wire.tooShort 1 record
      | message :: xs => do
        let message ← Wire.string message
        Wire.noMore 2 xs
        .ok (code, message)

/-- The response of a kind with a content. -/
def ofContent (kind : Kind) (content : Wire.Content) : Except Mismatch Response :=
  match kind with
  | .status => (ManagerStatus.ofContent content).map .status
  | .ok => (Request.noFields content).map fun _ => .ok
  | .error => (errorContent content).map fun e => .error e.1 e.2

/-- The response that a text denotes. -/
def read? (text : String) : Except ReadError Response :=
  Wire.readTagged record kindOf ofContent text

end Response

namespace StatusCode

open Json (Fault faultHere faultAtNext)

/-- The value of a code in the form of an object, which has to be `null`. -/
def nullContent (cs : List Char) : Except Fault (List Char) :=
  match Json.skip cs with
  | [] => .error (faultHere .endInValue [])
  | c :: rest =>
    if c = 'n' then (Json.ident ['u', 'l', 'l'] .null rest).map (·.2)
    else .error (Wire.typeFault "unit" (c :: rest))

/-- The name of a code in the form of an object, after the opening bracket. -/
def nameAsKey (cs : List Char) : Except Fault (StatusCode × List Char) :=
  match Json.skip cs with
  | [] => .error (faultHere .endInObject [])
  | c :: rest =>
    if c = '"' then Wire.nameIn Wire.statusName (c :: rest)
    else if c = '\x7d' then .error (faultAtNext .expectedValue (c :: rest))
    else .error (faultAtNext .keyNotString (c :: rest))

/-- A code at the front of a text: its name, or an object that gives the name no content. -/
def inText (cs : List Char) : Except Fault (StatusCode × List Char) :=
  match Json.skip cs with
  | [] => .error (faultHere .endInValue [])
  | c :: rest =>
    if c = '"' then Wire.nameIn Wire.statusName (c :: rest)
    else if c = '\x7b' then do
      let (code, rest) ← nameAsKey rest
      let rest ← Json.colon rest
      let rest ← nullContent rest
      match Json.skip rest with
      | [] => .error (faultHere .endInObject [])
      | d :: rest =>
        if d = '\x7d' then .ok (code, rest) else .error (faultHere .expectedValue (d :: rest))
    else .error (faultAtNext .expectedValue (c :: rest))

/-- The code that a text denotes. -/
def read? (text : String) : Except ReadError StatusCode :=
  Json.readAll inText text.toList

end StatusCode

namespace Origin

/-- The origin that a text denotes: any value is one. -/
def read? (text : String) : Except ReadError Origin :=
  (Json.read? text).map ofJson

end Origin

end Streamkeeper
