import Streamkeeper.Error
import Streamkeeper.Journal
import Streamkeeper.Options.Session
import Streamkeeper.Scope
import Streamkeeper.Table
import Streamkeeper.Wire.Message

/-!
The registry of sessions.

Sessions are grouped by the workstation directory that they stream; the sessions of one directory
make up a multi-session.  An instance belongs to one directory at a time: starting it in another
directory ends its session there.  A multi-session that loses its last session is dropped.  A handle
outlives the multi-session it was taken from, which holds no session from then on; a later
multi-session of the same directory has another serial number.

Every end of a session records one stop event, which names the directory and the scope of the
session that ended.
-/

namespace Streamkeeper

open Telemetry (Event Kind StartStatus)

/-- A gamelet that receives the content of a workstation directory. -/
structure SessionTarget where
  scope : Scope
  address : Address
  startedAt : UInt64
deriving Repr, DecidableEq

/-- The sessions that stream one workstation directory, by instance id. -/
structure MultiSession where
  directory : String
  serial : Nat
  sessions : Table String SessionTarget
deriving Repr, DecidableEq

/-- The sessions of every workstation directory. -/
structure Registry where
  config : SessionConfig
  directories : Table String MultiSession
  nextSerial : Nat
deriving Repr, DecidableEq

/-- A reference to a multi-session. -/
structure SessionHandle where
  directory : String
  serial : Nat
deriving Repr, DecidableEq

/-- What a session is started with. -/
structure StartParams where
  scope : Scope
  address : Address
  directory : String
deriving Repr, DecidableEq

namespace Telemetry.Event

/-- Attributes an event to a directory. -/
def inDirectory (e : Event) (directory : String) : Event :=
  e.updateManager fun m => { m with directory := some directory }

/-- Attributes an event to an instance. -/
def ofInstance (e : Event) (instanceId : String) : Event :=
  e.updateManager fun m => { m with instanceId := some instanceId }

/-- A text, unless it is empty. -/
def nonEmpty (s : String) : Option String :=
  if s = "" then none else some s

/-- Gives an event the project and organization of a scope where it has none of its own. -/
def fillScope (e : Event) (scope : Scope) : Event :=
  { e with
    projectId := e.projectId.or (nonEmpty scope.projectId)
    organizationId := e.organizationId.or (nonEmpty scope.organizationId) }

/-- The event of the end of a session with this scope. -/
def sessionStop (scope : Scope) : Event :=
  empty.fillScope scope

end Telemetry.Event

namespace MultiSession

/-- The session of an instance. -/
def session? (m : MultiSession) (instanceId : String) : Option SessionTarget :=
  m.sessions.get? instanceId

/-- Is there a session of the instance? -/
def tracks (m : MultiSession) (instanceId : String) : Bool :=
  m.sessions.has instanceId

/-- The event as it is recorded for one instance: it names the directory and the instance, and what
it lacks of a scope it takes from the session, if there is one. -/
def sessionEvent (m : MultiSession) (e : Event) (instanceId : String) : Event :=
  let e := (e.inDirectory m.directory).ofInstance instanceId
  match m.session? instanceId with
  | some target => e.fillScope target.scope
  | none => e

/-- The event as it is recorded for the whole directory. -/
def multiEvent (m : MultiSession) (e : Event) : Event :=
  e.inDirectory m.directory

/-- Adds or replaces the session of an instance. -/
def insert (m : MultiSession) (target : SessionTarget) : MultiSession :=
  { m with sessions := m.sessions.set target.scope.instanceId target }

/-- Takes the session of an instance away. -/
def erase (m : MultiSession) (instanceId : String) : MultiSession :=
  { m with sessions := m.sessions.remove instanceId }

end MultiSession

namespace Registry

/-- A registry without sessions. -/
def empty (config : SessionConfig) : Registry :=
  { config := config, directories := [], nextSerial := 0 }

/-- The multi-session of a directory. -/
def multiSession? (r : Registry) (directory : String) : Option MultiSession :=
  r.directories.get? directory

/-- The multi-session that tracks an instance. -/
def find? (r : Registry) (instanceId : String) : Option MultiSession :=
  r.directories.values.find? fun m => m.tracks instanceId

/-- The number of sessions in all directories. -/
def sessionCount (r : Registry) : Nat :=
  r.directories.values.foldl (fun n m => n + m.sessions.length) 0

/-- A reference to a multi-session. -/
def handle (m : MultiSession) : SessionHandle :=
  ⟨m.directory, m.serial⟩

/-- The multi-session behind a handle; one that was dropped holds no session. -/
def behind (r : Registry) (h : SessionHandle) : MultiSession :=
  match r.multiSession? h.directory with
  | some m => if m.serial = h.serial then m else ⟨h.directory, h.serial, []⟩
  | none => ⟨h.directory, h.serial, []⟩

/-! ### Status -/

/-- The report on one session. -/
def summary (directory : String) (target : SessionTarget) : SessionSummary :=
  { instanceId := target.scope.instanceId
    workstationDirectory := directory
    host := target.address.host
    port := target.address.port
    startedAt := target.startedAt }

/-- The reports on all sessions, directory by directory. -/
def summaries (r : Registry) : List SessionSummary :=
  r.directories.values.flatMap fun m => m.sessions.values.map (summary m.directory)

/-- The sessions in the order of their instance ids, and the configuration. -/
def status (r : Registry) : ManagerStatus :=
  let sessions := r.summaries.mergeSort fun a b => a.instanceId ≤ b.instanceId
  { sessionCount := sessions.length, sessions := sessions, config := r.config.toJson.canonical }

/-! ### Starting and stopping -/

/-- Takes the session of an instance out of a directory, and drops the directory if it was the
last.  The entry that is changed is that of `m.directory`.  In a well-formed registry, as every run
from an empty one gives it, this is the key under which `m` was found (`Registry.WellFormed.filed`),
so it makes no difference which of the two is meant. -/
def withdraw (r : Registry) (m : MultiSession) (instanceId : String) : Registry :=
  let rest := m.erase instanceId
  { r with
    directories :=
      if rest.sessions.isEmpty then r.directories.remove m.directory
      else r.directories.set m.directory rest }

/-- The multi-session of a directory, or a new one. -/
def open? (r : Registry) (directory : String) : MultiSession × Nat :=
  match r.multiSession? directory with
  | some m => (m, r.nextSerial)
  | none => (⟨directory, r.nextSerial, []⟩, r.nextSerial + 1)

/-- What a start gives. -/
structure StartOutcome where
  registry : Registry
  result : Except Error Unit
  status : StartStatus
  handle : Option SessionHandle
  journal : Journal

/-- The journal of a session's end in another directory: the record, and the stop event.  The
session has left `m` already, so the event takes its scope from the session itself. -/
def movedJournal (m : MultiSession) (old : SessionTarget) (instanceId : String) : Journal :=
  let stopped := (m.erase instanceId).sessionEvent (Event.sessionStop old.scope) instanceId
  Journal.note .info .session
      "instance was streamed from another directory; stopped that session" ++
    [.recorded .sessionStop stopped]

/-- Starts a session at time `now`.  `isDirectory` says whether the directory exists.  Another
directory is told from this one by `m.directory`, which is the key of its entry in a well-formed
registry. -/
def start (r : Registry) (isDirectory : Bool) (now : UInt64) (p : StartParams) : StartOutcome :=
  if p.directory = "" ∨ isDirectory = false then
    { registry := r, result := .error (.badDirectory p.directory), status := .invalidDirectory
      handle := none, journal := [] }
  else
    let id := p.scope.instanceId
    let previous := r.directories.values.find? fun m => m.directory ≠ p.directory && m.tracks id
    let moved := previous.bind fun m => (m.session? id).map fun old => (m, old)
    let freed := match previous with
      | some m => r.withdraw m id
      | none => r
    let (m, nextSerial) := freed.open? p.directory
    let replaced := m.tracks id
    let m := m.insert ⟨p.scope, p.address, now⟩
    { registry :=
        { freed with directories := freed.directories.set p.directory m, nextSerial := nextSerial }
      result := .ok ()
      status := .ok
      handle := some (handle m)
      journal :=
        ((moved.map fun (m, old) => movedJournal m old id).getD []) ++
        (if replaced then Journal.note .warn .session "restarted existing session" else []) ++
        Journal.note .info .session "session started" }

/-- What a stop gives. -/
structure StopOutcome where
  registry : Registry
  result : Except Error Unit
  journal : Journal

/-- The tracked session of an instance, with its multi-session. -/
def tracked? (r : Registry) (instanceId : String) : Option (MultiSession × SessionTarget) :=
  (r.find? instanceId).bind fun m => (m.session? instanceId).map fun t => (m, t)

/-- Stops the session of an instance. -/
def stop (r : Registry) (instanceId : String) : StopOutcome :=
  match r.tracked? instanceId with
  | none => { registry := r, result := .error (.noSession instanceId), journal := [] }
  | some (m, target) =>
    let stopped :=
      (m.erase instanceId).sessionEvent (Event.sessionStop target.scope) instanceId
    { registry := r.withdraw m instanceId
      result := .ok ()
      journal :=
        [.recorded .sessionStop stopped] ++ Journal.note .info .session "session stopped" }

/-- The journal of a multi-session's end: a stop event for every session, which takes its scope from
the session that is still there, then the record. -/
def endJournal (m : MultiSession) : Journal :=
  (m.sessions.keys.map fun id => Entry.recorded .sessionStop (m.sessionEvent Event.empty id)) ++
    Journal.note .info .session "multi-session shut down"

/-- Ends every session. -/
def shutdown (r : Registry) : Registry × Journal :=
  ({ r with directories := [] }, r.directories.values.flatMap endJournal)

/-- The journal of an event that a handle records for one instance. -/
def recordSession (r : Registry) (h : SessionHandle) (kind : Kind) (e : Event)
    (instanceId : String) : Journal :=
  [.recorded kind ((r.behind h).sessionEvent e instanceId)]

/-- The journal of an event that a handle records for its directory. -/
def recordMulti (r : Registry) (h : SessionHandle) (kind : Kind) (e : Event) : Journal :=
  [.recorded kind ((r.behind h).multiEvent e)]

end Registry

end Streamkeeper
